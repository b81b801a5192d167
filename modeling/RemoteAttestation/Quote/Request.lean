import RemoteAttestation.Pcr.SelectionList
import RemoteAttestation.Quote.Scheme

/-!
# Quote Requests

A request names the key that signs, the nonce that makes the quote fresh, the PCRs it covers
and the scheme of the signature. A TPM takes a nonce of one to sixty-four octets; a quote
covers at least one bank, each bank once and each with at least one index. A `QuoteRequest`
carries the proof of all this, and `QuoteRequest.build` names the first fault of what is not a
request.

## Main definitions

* `QuoteRequest`, `QuoteRequest.build`: requests and their construction.
* `TpmCommand.frame`: a command behind its header.
* `QuoteRequest.command`: the command that a TPM is sent.
-/

namespace RemoteAttestation

/-! ### Nonces -/

/-- The largest number of octets in a nonce. -/
def maxNonce : Nat := 64

/-- Why a nonce cannot be used. -/
inductive NonceFault where
  /-- The nonce has no octets. -/
  | empty
  /-- The nonce has more octets than a TPM takes. -/
  | tooLong (size : Nat)
  deriving Repr, DecidableEq

/-- The wording of a fault. -/
def NonceFault.message : NonceFault → String
  | empty => "nonce is empty"
  | tooLong size => s!"nonce is {size} bytes, maximum is {maxNonce}"

/-- The fault of a nonce of so many octets. -/
def nonceFault? (size : Nat) : Option NonceFault :=
  if size = 0 then some .empty else if maxNonce < size then some (.tooLong size) else none

/-- Nothing is wrong with the size of a nonce just when it is one that a TPM takes. -/
theorem nonceFault?_eq_none_iff {size : Nat} :
    nonceFault? size = none ↔ 1 ≤ size ∧ size ≤ maxNonce := by
  unfold nonceFault?
  by_cases hEmpty : size = 0
  · simp [hEmpty]
  · by_cases hLong : maxNonce < size
    · simp [hEmpty, hLong]
    · simp only [if_neg hEmpty, if_neg hLong, true_iff]
      omega

/-! ### Requests -/

/-- The first fault in a list of selections, none of which may use a bank in `earlier`. -/
def bankFault? (earlier : List Algorithm) : List Selection → Option SelectionFault
  | [] => none
  | s :: rest =>
    if s.isEmpty then some (.noneSelected s.bank)
    else if earlier.contains s.bank then some (.repeatedBank s.bank)
    else bankFault? (s.bank :: earlier) rest

/-- Nothing is wrong with some banks just when each has an index and none was there before. -/
theorem bankFault?_eq_none_iff {earlier : List Algorithm} {selections : List Selection} :
    bankFault? earlier selections = none ↔
      (∀ s ∈ selections, s.isEmpty = false) ∧ (selections.map Selection.bank).Nodup ∧
        ∀ s ∈ selections, s.bank ∉ earlier := by
  induction selections generalizing earlier with
  | nil => simp [bankFault?]
  | cons s rest ih =>
    simp only [bankFault?, List.mem_cons, forall_eq_or_imp, List.map_cons, List.nodup_cons,
      List.mem_map, not_exists, not_and]
    by_cases hEmpty : s.isEmpty
    · simp [hEmpty]
    · by_cases hBank : earlier.contains s.bank
      · simp_all
      · rw [if_neg hEmpty, if_neg hBank, ih]
        simp only [List.mem_cons, not_or]
        grind

/-- A request for a quote. -/
structure QuoteRequest where
  /-- The handle of the key that signs. -/
  keyHandle : UInt32
  /-- The nonce that the quote repeats. -/
  nonce : Bytes
  /-- The PCRs that the quote covers, bank by bank. -/
  selections : List Selection
  /-- The scheme of the signature. -/
  scheme : Scheme
  /-- The nonce has a size that a TPM takes. -/
  nonce_size : 1 ≤ nonce.length ∧ nonce.length ≤ maxNonce
  /-- There is a bank. -/
  selections_ne_nil : selections ≠ []
  /-- Each bank has an index. -/
  selections_inhabited : ∀ s ∈ selections, s.isEmpty = false
  /-- No bank is repeated. -/
  banks_nodup : (selections.map Selection.bank).Nodup
  deriving DecidableEq

/-- Why something is not a request. -/
inductive RequestFault where
  /-- The nonce cannot be used. -/
  | nonce (fault : NonceFault)
  /-- The selections cannot be used. -/
  | selection (fault : SelectionFault)
  deriving Repr, DecidableEq

/-- The wording of a fault. -/
def RequestFault.message : RequestFault → String
  | nonce fault => s!"invalid nonce: {fault.message}"
  | selection fault => s!"invalid PCR selection: {fault.message}"

/-- The **request** with these parts, or their first fault: that of the nonce, then that of the
list of selections, then those of the selections in their order. -/
def QuoteRequest.build (keyHandle : UInt32) (nonce : Bytes) (selections : List Selection)
    (scheme : Scheme) : Except RequestFault QuoteRequest :=
  match hNonce : nonceFault? nonce.length with
  | some fault => .error (.nonce fault)
  | none =>
    if hNil : selections = [] then .error (.selection .noBanks)
    else match hBanks : bankFault? [] selections with
      | some fault => .error (.selection fault)
      | none => .ok
        { keyHandle, nonce, selections, scheme
          nonce_size := nonceFault?_eq_none_iff.1 hNonce
          selections_ne_nil := hNil
          selections_inhabited := (bankFault?_eq_none_iff.1 hBanks).1
          banks_nodup := (bankFault?_eq_none_iff.1 hBanks).2.1 }

/-! ### Commands -/

namespace TpmCommand

/-- The tag of a command without authorisation. -/
def plainTag : UInt16 := 0x8001

/-- The tag of a command with authorisation. -/
def authorisedTag : UInt16 := 0x8002

/-- The code of the command that signs PCRs. -/
def quoteCode : UInt32 := 0x00000158

/-- The code of the command that reads PCRs. -/
def pcrReadCode : UInt32 := 0x0000017E

/-- The number of octets in a header. -/
def headerSize : Nat := 10

/-- A **command** behind its header: a tag, the number of octets of the whole, and a code. -/
def frame (tag : UInt16) (code : UInt32) (body : Bytes) : Bytes :=
  Wire.u16 tag ++ Bytes.ofNat 4 (headerSize + body.length) ++ Wire.u32 code ++ body

/-- The handle of a session that is authorised by a password. -/
def passwordSession : UInt32 := 0x40000009

/-- The authorisation by the empty password: the size of the rest, the session, no nonce, no
attributes and no password. -/
def emptyPassword : Bytes :=
  Wire.u32 9 ++ Wire.u32 passwordSession ++ Wire.u16 0 ++ Wire.u8 0 ++ Wire.u16 0

end TpmCommand

/-- The **command** that asks a TPM for the quote. -/
def QuoteRequest.command (request : QuoteRequest) : Bytes :=
  TpmCommand.frame TpmCommand.authorisedTag TpmCommand.quoteCode <|
    Wire.u32 request.keyHandle ++ TpmCommand.emptyPassword ++ Wire.sized request.nonce ++
      request.scheme.write ++ SelectionList.write request.selections

end RemoteAttestation
