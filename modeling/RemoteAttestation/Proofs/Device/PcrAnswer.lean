import RemoteAttestation.Proofs.Device.PcrReading

/-!
# Answers to a Request for PCR Values

Nothing is assumed here of whoever answers. An answer **announces** values when it is a
response of success that holds a list of selections and a number (`PcrAnswer.Announces`), and
it **delivers** them when the number is that of the indices that the list names for the bank,
of which there is at least one, and as many values follow (`PcrAnswer.Delivers`). What a round
makes of an answer is what the answer delivers, and every other answer is a fault.

An answer is of use to a reading when it delivers a value that is still wanted. There are four
ways to be of no use (`PcrAnswer.Fruitless`).

## Main results

* `PcrAnswer.ofBody_eq_iff`: a round has no fault just when its answer delivers the values it has.
* `PcrAnswer.Delivers.unique`: an answer delivers one thing.
* `PcrAnswer.fruitless_iff`: an answer is fruitless, or it delivers something that is wanted.
-/

namespace RemoteAttestation

namespace PcrAnswer

variable {bank : Algorithm} {answer : Except TransportFault Bytes}

/-! ### What an answer says -/

/-- An answer **announces** so many values for the indices in a list of selections: it is a
response of success whose body begins with a counter, the list and the number. -/
def Announces (answer : Except TransportFault Bytes) (selections : List Selection) (count : UInt32)
    (rest : Bytes) : Prop :=
  ∃ (response list : Bytes) (counter : UInt32), answer = .ok response ∧
    SelectionList.Form list selections ∧
      Response.Succeeds response (Wire.u32 counter ++ list ++ Wire.u32 count ++ rest)

/-- An answer **delivers** values for a bank: it announces values for indices of the bank, in
the number in which it names them, and then holds these values in the order of the indices. At
least one index is named, and one that is named twice has two values. -/
def Delivers (bank : Algorithm) (answer : Except TransportFault Bytes)
    (received : List (UInt8 × Bytes)) : Prop :=
  ∃ (selections : List Selection) (count : UInt32) (values rest : Bytes),
    Announces answer selections count (values ++ rest) ∧
      received.map Prod.fst = PcrRound.namedIndices bank selections ∧ received ≠ [] ∧
        count.toNat = received.length ∧ PcrRound.ValuesForm values (received.map Prod.snd)

/-- An answer announces **one** thing. -/
theorem Announces.unique {selections selections' : List Selection} {count count' : UInt32}
    {rest rest' : Bytes} (h : Announces answer selections count rest)
    (h' : Announces answer selections' count' rest') :
    selections = selections' ∧ count = count' ∧ rest = rest' := by
  obtain ⟨response, list, counter, rfl, hList, hBody⟩ := h
  obtain ⟨_, list', counter', hResponse, hList', hBody'⟩ := h'
  obtain rfl := Except.ok.inj hResponse
  have hBodies := hBody.unique hBody'
  simp only [List.append_assoc] at hBodies
  obtain ⟨-, hBehindCounter⟩ := List.append_inj hBodies
    (by rw [Wire.length_u32, Wire.length_u32])
  obtain ⟨rfl, hBehindList⟩ := SelectionList.accepts_read.unique hList hList' hBehindCounter
  obtain ⟨rfl, rfl⟩ := Reader.accepts_u32.unique rfl rfl hBehindList
  exact ⟨rfl, rfl, rfl⟩

/-! ### What a round makes of an answer -/

/-- A round has **no fault** just when its answer delivers the values that it has. -/
theorem ofBody_eq_iff {missing : List UInt8} {received : List (UInt8 × Bytes)} :
    PcrRound.ofBody bank missing (Response.bodyOf answer) = ⟨received, none⟩ ↔
      Delivers bank answer received := by
  constructor
  · intro h
    cases answer with
    | error fault => cases h
    | ok response =>
        rw [Response.bodyOf] at h
        cases hBody : Response.body response with
        | error fault => rw [hBody] at h; cases h
        | ok body =>
            rw [hBody, PcrRound.ofBody, PcrRound.read] at h
            split at h
            · cases h
            rename_i indices c hIndices
            obtain ⟨_, hStart, -, counter, count, list, selections, hList, hNamed, hSome, hCount,
              rfl⟩ := (PcrRound.accepts_readIndices bank missing _ c indices).mp hIndices
            obtain ⟨hReceived, values, rest, hRest, hValues⟩ := PcrRound.readValues_eq_iff.mp h
            refine ⟨selections, count, values, rest, ⟨response, list, counter, rfl, hList, ?_⟩,
              hReceived.trans hNamed, ?_, ?_, hValues⟩
            · rw [← hRest, ← hStart]
              exact Response.body_eq_ok_iff.mp hBody
            · rintro rfl
              exact hSome hReceived.symm
            · rw [hCount, ← hReceived, List.length_map]
  · rintro ⟨selections, count, values, rest, ⟨response, list, counter, rfl, hList, hSucceeds⟩,
      hNamed, hSome, hCount, hValues⟩
    have hHead : PcrRound.HeadForm bank (Wire.u32 counter ++ list ++ Wire.u32 count)
        (received.map Prod.fst) :=
      ⟨counter, count, list, selections, hList, hNamed, mt List.map_eq_nil_iff.mp hSome,
        hCount.trans (List.length_map _).symm, rfl⟩
    have hIndices := (PcrRound.accepts_readIndices bank missing
      (Cursor.start (Wire.u32 counter ++ list ++ Wire.u32 count ++ (values ++ rest)))
      ⟨values ++ rest, _⟩ (received.map Prod.fst)).mpr ⟨_, rfl, rfl, hHead⟩
    rw [Response.bodyOf, Response.body_eq_ok_iff.mpr hSucceeds, PcrRound.ofBody, PcrRound.read,
      hIndices]
    exact PcrRound.readValues_eq_iff.mpr ⟨rfl, values, rest, rfl, hValues⟩

/-- An answer delivers **one** thing. -/
theorem Delivers.unique {received received' : List (UInt8 × Bytes)}
    (h : Delivers bank answer received) (h' : Delivers bank answer received') :
    received = received' := by
  have hRound : PcrRound.ofBody bank [] (Response.bodyOf answer) = ⟨received, none⟩ :=
    ofBody_eq_iff.mpr h
  exact (PcrRound.mk.inj (hRound.symm.trans (ofBody_eq_iff.mpr h'))).1

/-! ### Answers without use -/

/-- An answer is **fruitless** for a reading that still wants some indices of a bank. -/
inductive Fruitless (bank : Algorithm) (Wanted : UInt8 → Prop)
    (answer : Except TransportFault Bytes) : Prop
  /-- There is no response of success, or it does not hold what it announces. -/
  | malformed (h : ∀ selections count (contents : List Bytes) values rest,
      count.toNat = contents.length → PcrRound.ValuesForm values contents →
        ¬ Announces answer selections count (values ++ rest))
  /-- No index of the bank is named. -/
  | nothingNamed {selections count rest} (h : Announces answer selections count rest)
      (hNone : PcrRound.namedIndices bank selections = [])
  /-- There is another number of values than of indices. -/
  | otherCount {selections count rest} (h : Announces answer selections count rest)
      (hCount : count.toNat ≠ (PcrRound.namedIndices bank selections).length)
  /-- None of the values is wanted. -/
  | nothingWanted {received} (h : Delivers bank answer received)
      (hNone : ∀ index ∈ received.map Prod.fst, ¬ Wanted index)

/-- **An answer is fruitless**, or it delivers something that is wanted. -/
theorem fruitless_iff {Wanted : UInt8 → Prop} :
    Fruitless bank Wanted answer ↔
      ¬ ∃ received, Delivers bank answer received ∧
        ∃ index ∈ received.map Prod.fst, Wanted index := by
  constructor
  · rintro hFruitless ⟨received, hDelivers, index, hIndex, hWanted⟩
    obtain ⟨selections, count, values, rest, hAnnounces, hNamed, hSome, hCount, hValues⟩ :=
      id hDelivers
    cases hFruitless with
    | malformed h =>
        exact h _ _ _ _ _ (hCount.trans (List.length_map _).symm) hValues hAnnounces
    | nothingNamed h hNone =>
        obtain ⟨rfl, -, -⟩ := h.unique hAnnounces
        exact hSome (List.map_eq_nil_iff.mp (hNamed.trans hNone))
    | otherCount h hOther =>
        obtain ⟨rfl, rfl, -⟩ := h.unique hAnnounces
        exact hOther (by rw [hCount, ← hNamed, List.length_map])
    | nothingWanted h hNone =>
        obtain rfl := h.unique hDelivers
        exact hNone index hIndex hWanted
  · intro hNothing
    by_cases hForm : ∃ selections count contents values rest, count.toNat = contents.length ∧
        PcrRound.ValuesForm values contents ∧ Announces answer selections count (values ++ rest)
    · obtain ⟨selections, count, contents, values, rest, hCount, hValues, hAnnounces⟩ := hForm
      by_cases hNone : PcrRound.namedIndices bank selections = []
      · exact .nothingNamed hAnnounces hNone
      by_cases hOther : count.toNat ≠ (PcrRound.namedIndices bank selections).length
      · exact .otherCount hAnnounces hOther
      -- Now the answer delivers the values, each with the index that is named for it.
      have hLength : (PcrRound.namedIndices bank selections).length = contents.length :=
        (not_not.mp hOther).symm.trans hCount
      have hFst := List.map_fst_zip hLength.le
      have hSnd := List.map_snd_zip hLength.ge
      have hDelivers : Delivers bank answer
          ((PcrRound.namedIndices bank selections).zip contents) := by
        refine ⟨selections, count, values, rest, hAnnounces, hFst, ?_, ?_, hSnd.symm ▸ hValues⟩
        · intro hNil
          rw [hNil] at hFst
          exact hNone hFst.symm
        · rw [hCount, List.length_zip, hLength, Nat.min_self]
      exact .nothingWanted hDelivers fun index hIndex hWanted =>
        hNothing ⟨_, hDelivers, index, hIndex, hWanted⟩
    · exact .malformed fun selections count contents values rest hCount hValues hAnnounces =>
        hForm ⟨selections, count, contents, values, rest, hCount, hValues, hAnnounces⟩

/-! ### Plain answers -/

/-- The **plain** answer with the values of a selection: its one entry, and nothing behind the
values. -/
def plain (digest : UInt8 → Bytes) (s : Selection) : Bytes :=
  TpmCommand.frame TpmCommand.plainTag 0 (Wire.u32 0 ++ SelectionList.write [s] ++
    Bytes.ofNat 4 s.size ++ s.indices.flatMap fun index => Wire.sized (digest index))

/-- **A plain answer delivers** the values of its selection, if a TPM can have these and they
fit in. -/
theorem delivers_plain {digest : UInt8 → Bytes} {s : Selection} (hBank : s.InBank)
    (hSome : s.indices ≠ []) (hFits : ∀ index ∈ s.indices, (digest index).length < 65536)
    (hSmall : (plain digest s).length < 2 ^ 32) :
    Delivers s.bank (.ok (plain digest s)) (PcrRound.ofDigests digest s.indices).received := by
  have hNamed : PcrRound.namedIndices s.bank [s] = s.indices := by
    simp [PcrRound.namedIndices]
  have hCount : s.size < 2 ^ 32 := Nat.lt_of_le_of_lt s.size_le (by decide)
  refine ⟨[s], UInt32.ofNat s.size, _, [], ⟨_, SelectionList.write [s], 0, rfl,
    SelectionList.form_write (by simp) (by simpa using hBank), ?_⟩, ?_, ?_, ?_,
    PcrRound.valuesForm_ofDigests hFits⟩
  · rw [Wire.u32_ofNat hCount, List.append_nil]
    refine Response.succeeds_frame _ (Nat.lt_of_le_of_lt (Nat.le_of_eq ?_) hSmall)
    rw [plain, TpmCommand.length_frame]
  · rw [PcrRound.map_fst_received_ofDigests, hNamed]
  · exact mt List.map_eq_nil_iff.mp hSome
  · rw [UInt32.toNat_ofNat_of_lt' hCount, PcrRound.ofDigests, List.length_map]
    rfl

end PcrAnswer

end RemoteAttestation
