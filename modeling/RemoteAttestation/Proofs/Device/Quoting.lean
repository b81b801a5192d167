import RemoteAttestation.Device.Quoting
import RemoteAttestation.Proofs.Wire.Grammar

/-!
# The Exchange for a Quote

A session for a quote sends one command, and what it ends with depends on the response alone. A
response carries a quote when its header and the size of its area are right (`Quote.Carries`):
the area ends with the signature, whatever follows it, so the size of the area decides where
the signature ends.

## Main results

* `Quote.ofResponse_eq_ok_iff`: the responses that carry a quote, and the quotes they carry.
* `QuoteRequest.run_session`: a session ends with what the response makes of it.
-/

namespace RemoteAttestation

/-! ### Responses -/

/-- A command is a header of ten octets and what it carries. -/
theorem TpmCommand.length_frame (tag : UInt16) (code : UInt32) (b : Bytes) :
    (frame tag code b).length = headerSize + b.length := by
  rw [frame, headerSize]
  simp only [List.length_append, Wire.length_u16, Wire.length_u32, Bytes.length_ofNat]

namespace Response

/-- A response of **success**: a tag, the size of the whole, the code zero, and a body. -/
def Succeeds (response body : Bytes) : Prop :=
  ∃ (tag : UInt16) (size : UInt32), size.toNat = response.length ∧
    response = Wire.u16 tag ++ Wire.u32 size ++ Wire.u32 0 ++ body

/-- The octets of a header, split into its three fields, and the body. -/
theorem split_header (response : Bytes) :
    response.take 2 ++ (response.drop 2).take 4 ++ (response.drop 6).take 4 ++ response.drop 10 =
      response := by
  rw [List.append_assoc, List.append_assoc, show response.drop 10 = (response.drop 6).drop 4 by
    rw [List.drop_drop], List.take_append_drop, show response.drop 6 = (response.drop 2).drop 4 by
    rw [List.drop_drop], List.take_append_drop, List.take_append_drop]

/-- A response has a body just when it **succeeds** with that body. -/
theorem body_eq_ok_iff {response b : Bytes} : body response = .ok b ↔ Succeeds response b := by
  rw [body]
  constructor
  · intro h
    split at h
    · cases h
    rename_i hLong
    split at h
    · cases h
    rename_i hSize
    split at h
    · cases h
    rename_i hCode
    have hTen : 10 ≤ response.length := Nat.not_lt.mp hLong
    have hTag : (response.take 2).length = 2 := by rw [List.length_take]; omega
    have hFour : ((response.drop 2).take 4).length = 4 := by
      rw [List.length_take, List.length_drop]; omega
    have hLast : ((response.drop 6).take 4).length = 4 := by
      rw [List.length_take, List.length_drop]; omega
    refine ⟨UInt16.ofNat (Bytes.value (response.take 2)), statedSize response, not_not.mp hSize, ?_⟩
    rw [← not_not.mp hCode, code, statedSize, Wire.u16_value hTag, Wire.u32_value hFour,
      Wire.u32_value hLast, ← Except.ok.inj h]
    exact (split_header response).symm
  · rintro ⟨tag, size, hLength, hForm⟩
    have hTen : ¬ response.length < TpmCommand.headerSize := by
      rw [hForm, TpmCommand.headerSize]
      simp only [List.length_append, Wire.length_u16, Wire.length_u32]
      omega
    rw [List.append_assoc, List.append_assoc] at hForm
    have hBehindTag : response.drop 2 = Wire.u32 size ++ (Wire.u32 0 ++ b) := by
      rw [hForm, List.drop_left' (Wire.length_u16 tag)]
    have hBehindSize : response.drop 6 = Wire.u32 0 ++ b := by
      rw [show 6 = 2 + 4 from rfl, ← List.drop_drop, hBehindTag,
        List.drop_left' (Wire.length_u32 size)]
    have hBody : response.drop 10 = b := by
      rw [show 10 = 6 + 4 from rfl, ← List.drop_drop, hBehindSize,
        List.drop_left' (Wire.length_u32 0)]
    have hStated : statedSize response = size := by
      rw [statedSize, hBehindTag, List.take_left' (Wire.length_u32 size), Wire.ofNat_value_u32]
    have hCode : code response = 0 := by
      rw [code, hBehindSize, List.take_left' (Wire.length_u32 0), Wire.ofNat_value_u32]
    rw [if_neg hTen, hStated, if_neg (not_not.mpr hLength), hCode, if_neg (not_not.mpr rfl),
      TpmCommand.headerSize, hBody]

/-- A response has **one** body. -/
theorem Succeeds.unique {response b b' : Bytes} (h : Succeeds response b)
    (h' : Succeeds response b') : b = b' :=
  Except.ok.inj ((body_eq_ok_iff.mpr h).symm.trans (body_eq_ok_iff.mpr h'))

/-- A frame with the code zero is a response of success. -/
theorem succeeds_frame (tag : UInt16) {b : Bytes} (h : TpmCommand.headerSize + b.length < 2 ^ 32) :
    Succeeds (TpmCommand.frame tag 0 b) b := by
  refine ⟨tag, UInt32.ofNat (TpmCommand.headerSize + b.length), ?_, ?_⟩
  · rw [UInt32.toNat_ofNat_of_lt' h, TpmCommand.length_frame]
  · rw [TpmCommand.frame, Wire.u32_ofNat h]

end Response

namespace Quote

/-- The form of the **area** in which a response carries a quote: its size, the attestation
behind its own size, and the signature, for which there must be some room. -/
def AreaForm : Grammar Quote := fun b q =>
  ∃ size : UInt32, size.toNat = 2 + q.attestation.length + q.signature.length ∧
    q.attestation.length < 65536 ∧ 2 ≤ q.signature.length ∧
    b = Wire.u32 size ++ Wire.sized q.attestation ++ q.signature

/-- The reader of a quote accepts its area, whatever is behind that. -/
theorem accepts_read : Reader.Accepts read AreaForm := by
  intro c c' q
  simp only [read, Reader.bind_apply_eq_ok_iff, Reader.guard_apply_eq_ok_iff,
    Reader.offset_apply_eq_ok_iff, Reader.remaining_apply_eq_ok_iff, Reader.pure_apply_eq_ok_iff]
  constructor
  · rintro ⟨size, c₁, hSize, _, _, ⟨rfl, rfl⟩, _, _, ⟨rfl, rfl⟩, -, attestation, c₂, hAttestation,
      _, _, ⟨rfl, rfl⟩, hUsed, _, _, hSignature, hRoom, rfl, rfl⟩
    obtain ⟨_, hRest₁, hOffset₁, rfl⟩ := (Reader.accepts_u32.orFail _ _ _ _).mp hSize
    obtain ⟨_, hRest₂, hOffset₂, rfl, hLt⟩ := (Reader.accepts_sized.orFail _ _ _ _).mp hAttestation
    obtain ⟨signature, hRest₃, hOffset₃, rfl, hLength⟩ :=
      ((Reader.accepts_take _).orFail _ _ _ _).mp hSignature
    rw [Wire.length_sized] at hOffset₂
    refine ⟨Wire.u32 size ++ Wire.sized attestation ++ signature, ?_, ?_, size, ?_, hLt, ?_, rfl⟩
    · rw [hRest₁, hRest₂, hRest₃, List.append_assoc, List.append_assoc]
    · rw [hOffset₃, hOffset₂, hOffset₁, List.length_append, List.length_append, Wire.length_sized]
      omega
    · dsimp only
      omega
    · exact Nat.not_lt.mp hRoom
  · obtain ⟨attestation, signature⟩ := q
    rintro ⟨_, hRest, hOffset, size, hSize, hLt, hRoom, rfl⟩
    dsimp only at hSize hLt hRoom hRest hOffset
    rw [List.append_assoc, List.append_assoc] at hRest
    simp only [List.length_append, Wire.length_u32, Wire.length_sized] at hOffset
    let c₁ : Cursor := ⟨Wire.sized attestation ++ (signature ++ c'.rest), c.offset + 4⟩
    let c₂ : Cursor := ⟨signature ++ c'.rest, c₁.offset + (2 + attestation.length)⟩
    have hUsed : c₂.offset - c₁.offset = 2 + attestation.length := Nat.add_sub_cancel_left _ _
    refine ⟨size, c₁, (Reader.accepts_u32.orFail _ _ _ _).mpr ⟨_, hRest, rfl, rfl⟩, _, _,
      ⟨rfl, rfl⟩, _, _, ⟨rfl, rfl⟩, ?_, attestation, c₂,
      (Reader.accepts_sized.orFail _ _ _ _).mpr ⟨_, rfl, ?_, rfl, hLt⟩, _, _, ⟨rfl, rfl⟩, ?_,
      signature, c', ((Reader.accepts_take _).orFail _ _ _ _).mpr ⟨signature, rfl, ?_, rfl, ?_⟩,
      Nat.not_lt.mpr hRoom, rfl, rfl⟩
    · simp only [c₁, List.length_append, Wire.length_sized]
      omega
    · rw [Wire.length_sized]
    · omega
    · simp only [c₂, c₁]
      omega
    · omega

/-- A response **carries** a quote in the area that its body begins with. What follows the area
is left open. -/
def Carries (response : Bytes) (q : Quote) : Prop :=
  ∃ area rest, AreaForm area q ∧ Response.Succeeds response (area ++ rest)

/-- **The responses that carry a quote** are those that one can be taken from. -/
theorem ofResponse_eq_ok_iff {response : Bytes} {q : Quote} :
    ofBody (Response.bodyOf (.ok response)) = .ok q ↔ Carries response q := by
  rw [Response.bodyOf, Carries]
  constructor
  · intro h
    cases hBody : Response.body response with
    | error fault => rw [hBody] at h; cases h
    | ok body =>
        rw [hBody] at h
        obtain ⟨area, rest, rfl, hArea⟩ := accepts_read.parse_eq_ok_iff.mp h
        exact ⟨area, rest, hArea, Response.body_eq_ok_iff.mp hBody⟩
  · rintro ⟨area, rest, hArea, hSucceeds⟩
    rw [Response.body_eq_ok_iff.mpr hSucceeds]
    exact accepts_read.parse_eq_ok_iff.mpr ⟨area, rest, rfl, hArea⟩

/-- A response carries **one** quote. -/
theorem Carries.unique {response : Bytes} {q q' : Quote} (h : Carries response q)
    (h' : Carries response q') : q = q' :=
  Except.ok.inj ((ofResponse_eq_ok_iff.mpr h).symm.trans (ofResponse_eq_ok_iff.mpr h'))

end Quote

/-! ### Sessions -/

section

variable {α σ : Type} {transmit : Bytes → StateM σ (Except TransportFault Bytes)}
  {report : DeviceEvent → StateM σ Unit}

namespace Session

/-- A session that tells an event goes on as it would without. -/
theorem run_tell (event : DeviceEvent) (next : Session α) (state : σ) :
    (tell event next).run transmit report state =
      next.run transmit report (report event state).2 := rfl

/-- A session that sends a command goes on with the body of the response. -/
theorem run_request (command : Bytes) (next : Except ResponseFault Bytes → Session α) (state : σ) :
    (request command >>= next).run transmit report state =
      (next (Response.bodyOf (transmit command state).1)).run transmit report
        (transmit command state).2 := rfl

end Session

/-- **A session ends with what the response makes of it**, however the command is sent and
whatever is done with the events. -/
theorem QuoteRequest.run_session {request : QuoteRequest} {response : Except TransportFault Bytes}
    (h : ∀ state, (transmit request.command state).1 = response) (state : σ) :
    (request.session.run transmit report state).1 =
      (Quote.ofBody (Response.bodyOf response)).mapError (⟨request.keyHandle, ·⟩) := by
  rw [session, Session.run_tell, Session.run_request, h]
  cases Quote.ofBody (Response.bodyOf response) with
  | error cause => rfl
  | ok q => rfl

end

end RemoteAttestation
