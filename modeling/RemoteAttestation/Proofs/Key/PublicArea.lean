import RemoteAttestation.Key.PublicArea
import RemoteAttestation.Proofs.Algorithm
import RemoteAttestation.Proofs.Wire.Grammar

/-!
# The Grammar of Public Areas

A public area is its fields one after the other, in the one form that is written. What a cipher
or a scheme has for fields depends on its identifier: the null algorithm has none, and a count
is there for some schemes only. So a value of the type has a form when its parts are as their
identifiers want them (`PublicArea.Encodable`). An area is read from the front of a string, and
what follows it is not looked at.

## Main results

* `PublicArea.parse_read_eq_ok_iff`: the strings that begin with an area, and with which.
* `PublicArea.head?_eq_zero_of_parse`: such a string begins with a zero.
-/

namespace RemoteAttestation.PublicArea

/-- A cipher **fits** its identifier when it is not that of the null algorithm. -/
def CipherFits (cipher : Option Cipher) : Prop :=
  ∀ c, cipher = some c → c.id ≠ Algorithm.null.id

/-- A scheme **fits** its identifier when it is not that of the null algorithm and there is a
count just where one belongs. -/
def SchemeFits (counted : UInt16 → Bool) (scheme : Option BoundScheme) : Prop :=
  ∀ s, scheme = some s → s.id ≠ Algorithm.null.id ∧ s.count.isSome = counted s.id

/-- The schemes with a count, for keys of a type. -/
def counted : KeyParameters → UInt16 → Bool
  | .rsa .. => fun _ => false
  | .ecc .. => (· == anonymousScheme)

/-- The parameters **fit** their form: lengths fit in two octets, and the way to derive keys
has no count. -/
def ParametersFit : KeyParameters → Prop
  | .rsa _ _ modulus => modulus.length < 65536
  | .ecc _ derivation x y =>
    SchemeFits (fun _ => false) derivation ∧ x.length < 65536 ∧ y.length < 65536

/-- What has a **form**: an area whose parts fit. -/
structure Encodable (area : PublicArea) : Prop where
  /-- The length of the policy fits in two octets. -/
  policy : area.policy.length < 65536
  /-- The cipher fits its identifier. -/
  cipher : CipherFits area.cipher
  /-- The scheme fits its identifier. -/
  scheme : SchemeFits (counted area.parameters) area.scheme
  /-- The parameters fit their form. -/
  parameters : ParametersFit area.parameters

/-- The form of a **public area** is the one that is written. -/
def Form : Grammar PublicArea := fun b area => area.Encodable ∧ b = area.write

/-! ### Ciphers and schemes -/

/-- What may be **none**: the identifier of the null algorithm alone, or another identifier and
the details that belong to it. -/
theorem accepts_optional {α : Type} (id : α → UInt16) (fits : α → Prop) (write : Option α → Bytes)
    {details : α → Bytes} {readDetails : UInt16 → Reader Underflow (Option α)}
    (hNone : write none = Wire.u16 Algorithm.null.id)
    (hSome : ∀ a, write (some a) = Wire.u16 (id a) ++ details a)
    (h : ∀ n, Reader.Accepts (readDetails n) fun b part =>
      ∃ a, id a = n ∧ fits a ∧ part = some a ∧ b = details a) :
    Reader.Accepts (do
        let n ← Reader.u16
        if n = Algorithm.null.id then return none
        readDetails n) fun b part =>
      (∀ a, part = some a → id a ≠ Algorithm.null.id ∧ fits a) ∧ b = write part := by
  refine Reader.Accepts.congr (Reader.accepts_u16.bind
    (k := fun n b part => n = Algorithm.null.id ∧ part = none ∧ b = [] ∨
      n ≠ Algorithm.null.id ∧ ∃ a, id a = n ∧ fits a ∧ part = some a ∧ b = details a) fun n => ?_)
    fun b part => ?_
  · by_cases hNull : n = Algorithm.null.id
    · simp only [hNull, ne_eq, not_true_eq_false, false_and, or_false, true_and]
      exact (Reader.accepts_pure none).congr fun b part => and_comm
    · simp only [hNull, ne_eq, not_false_eq_true, false_and, false_or, true_and]
      exact h n
  · constructor
    · rintro ⟨n, _, _, rfl, rfl, ⟨rfl, rfl, rfl⟩ | ⟨hNull, a, rfl, hFits, rfl, rfl⟩⟩
      · exact ⟨nofun, (List.append_nil _).trans hNone.symm⟩
      · refine ⟨?_, (hSome a).symm⟩
        rintro _ ⟨⟩
        exact ⟨hNull, hFits⟩
    · rintro ⟨hPart, rfl⟩
      cases part with
      | none => exact ⟨_, _, [], hNone.trans (List.append_nil _).symm, rfl, .inl ⟨rfl, rfl, rfl⟩⟩
      | some a =>
          obtain ⟨hNull, hFits⟩ := hPart a rfl
          exact ⟨id a, _, _, hSome a, rfl, .inr ⟨hNull, a, rfl, hFits, rfl, rfl⟩⟩

/-- The reader of a cipher accepts what a cipher is written as. -/
theorem accepts_readCipher : Reader.Accepts readCipher fun b cipher =>
    CipherFits cipher ∧ b = writeCipher cipher := by
  refine (accepts_optional Cipher.id (fun _ => True) writeCipher rfl
    (fun _ => List.append_assoc _ _ _) fun n => ?_).congr fun b cipher => ?_
  · refine (Reader.accepts_u16.bind fun keyBits => Reader.accepts_u16.bind fun mode =>
      Reader.accepts_pure _).congr fun b cipher => ?_
    constructor
    · rintro ⟨keyBits, _, _, rfl, rfl, mode, _, _, rfl, rfl, rfl, rfl⟩
      exact ⟨⟨n, keyBits, mode⟩, rfl, trivial, rfl, by rw [List.append_nil]⟩
    · rintro ⟨c, rfl, -, rfl, rfl⟩
      exact ⟨c.keyBits, _, _, rfl, rfl, c.mode, _, [], (List.append_nil _).symm, rfl, rfl, rfl⟩
  · simp only [and_true, CipherFits]

/-- The count of a scheme, where one belongs. -/
theorem accepts_readCount (counted : Bool) (id hash : UInt16) :
    Reader.Accepts (if counted then do return some ⟨id, hash, some (← Reader.u16)⟩
        else pure (some ⟨id, hash, none⟩)) fun b scheme =>
      ∃ count : Option UInt16, count.isSome = counted ∧
        scheme = some (BoundScheme.mk id hash count) ∧ b = (count.map Wire.u16).getD [] := by
  cases counted with
  | true =>
      refine (Reader.accepts_u16.bind fun count => Reader.accepts_pure _).congr fun b scheme => ?_
      constructor
      · rintro ⟨count, _, _, rfl, rfl, rfl, rfl⟩
        exact ⟨some count, rfl, rfl, List.append_nil _⟩
      · rintro ⟨_ | count, hSome, rfl, rfl⟩
        · cases hSome
        · exact ⟨count, _, [], (List.append_nil _).symm, rfl, rfl, rfl⟩
  | false =>
      refine (Reader.accepts_pure _).congr fun b scheme => ?_
      constructor
      · rintro ⟨rfl, rfl⟩
        exact ⟨none, rfl, rfl, rfl⟩
      · rintro ⟨_ | count, hSome, rfl, rfl⟩
        · exact ⟨rfl, rfl⟩
        · cases hSome

/-- The reader of a scheme accepts what a scheme is written as, with a count or without. -/
theorem accepts_readScheme (counted : UInt16 → Bool) :
    Reader.Accepts (readScheme counted) fun b scheme =>
      SchemeFits counted scheme ∧ b = writeScheme scheme := by
  refine accepts_optional BoundScheme.id (fun s => s.count.isSome = counted s.id) writeScheme rfl
    (fun _ => List.append_assoc _ _ _) fun n => ?_
  refine (Reader.accepts_u16.bind fun hash => accepts_readCount (counted n) n hash).congr
    fun b scheme => ?_
  constructor
  · rintro ⟨hash, _, _, rfl, rfl, count, hCount, rfl, rfl⟩
    exact ⟨⟨n, hash, count⟩, rfl, hCount, rfl, rfl⟩
  · rintro ⟨s, rfl, hCount, rfl, rfl⟩
    exact ⟨s.hash, _, _, rfl, rfl, s.count, hCount, rfl, rfl⟩

/-! ### Parameters -/

/-- The reader of RSA parameters accepts what they are written as. -/
theorem accepts_readRsa : Reader.Accepts readRsa fun b parameters =>
    typeOf parameters = .rsa ∧ ParametersFit parameters ∧ b = writeParameters parameters := by
  refine (Reader.accepts_u16.bind fun keyBits => Reader.accepts_u32.bind fun exponent =>
    Reader.accepts_sized.bind fun modulus => Reader.accepts_pure _).congr fun b parameters => ?_
  constructor
  · rintro ⟨keyBits, _, _, rfl, rfl, exponent, _, _, rfl, rfl, modulus, _, _, rfl,
      ⟨rfl, hModulus⟩, rfl, rfl⟩
    exact ⟨rfl, hModulus, by simp only [writeParameters, List.append_assoc, List.append_nil]⟩
  · rintro ⟨hType, hFits, rfl⟩
    cases parameters with
    | ecc curve derivation x y => cases hType
    | rsa keyBits exponent modulus =>
        refine ⟨keyBits, _, _, ?_, rfl, exponent, _, _, rfl, rfl, modulus, _, [], rfl, ⟨rfl, hFits⟩,
          rfl, rfl⟩
        simp only [writeParameters, List.append_assoc, List.append_nil]

theorem accepts_readEcc : Reader.Accepts readEcc fun b parameters =>
    typeOf parameters = .ecc ∧ ParametersFit parameters ∧ b = writeParameters parameters := by
  refine (Reader.accepts_u16.bind fun curve => (accepts_readScheme _).bind fun derivation =>
    Reader.accepts_sized.bind fun x => Reader.accepts_sized.bind fun y =>
      Reader.accepts_pure _).congr fun b parameters => ?_
  constructor
  · rintro ⟨curve, _, _, rfl, rfl, derivation, _, _, rfl, ⟨hDerivation, rfl⟩, x, _, _, rfl,
      ⟨rfl, hx⟩, y, _, _, rfl, ⟨rfl, hy⟩, rfl, rfl⟩
    exact ⟨rfl, ⟨hDerivation, hx, hy⟩,
      by simp only [writeParameters, List.append_assoc, List.append_nil]⟩
  · rintro ⟨hType, hFits, rfl⟩
    cases parameters with
    | rsa keyBits exponent modulus => cases hType
    | ecc curve derivation x y =>
        obtain ⟨hDerivation, hx, hy⟩ := hFits
        refine ⟨curve, _, _, ?_, rfl, derivation, _, _, rfl, ⟨hDerivation, rfl⟩, x, _, _, rfl,
          ⟨rfl, hx⟩, y, _, [], rfl, ⟨rfl, hy⟩, rfl, rfl⟩
        simp only [writeParameters, List.append_assoc, List.append_nil]

/-! ### Areas -/

/-- The form of what is **behind the policy** of an area. -/
def RestForm (nameAlgorithm : UInt16) (attributes : UInt32) (policy : Bytes) : Grammar PublicArea :=
  fun b area => area.nameAlgorithm = nameAlgorithm ∧ area.attributes = attributes ∧
    area.policy = policy ∧ CipherFits area.cipher ∧
    SchemeFits (counted area.parameters) area.scheme ∧ ParametersFit area.parameters ∧
    b = writeCipher area.cipher ++ writeScheme area.scheme ++ writeParameters area.parameters

/-- The part of an area behind its policy, for either type. -/
theorem accepts_readRest {readParameters : Reader Underflow KeyParameters}
    {algorithm : Algorithm} {count : UInt16 → Bool}
    (hParameters : Reader.Accepts readParameters fun b parameters =>
      typeOf parameters = algorithm ∧ ParametersFit parameters ∧ b = writeParameters parameters)
    (hCounted : ∀ parameters, typeOf parameters = algorithm → counted parameters = count)
    (nameAlgorithm : UInt16) (attributes : UInt32) (policy : Bytes) :
    Reader.Accepts (do
        let cipher ← readCipher.orFail KeyFault.underflow
        let scheme ← (readScheme count).orFail KeyFault.underflow
        return ⟨nameAlgorithm, attributes, policy, cipher, scheme,
          ← readParameters.orFail KeyFault.underflow⟩) fun b area =>
      typeOf area.parameters = algorithm ∧ RestForm nameAlgorithm attributes policy b area := by
  refine ((accepts_readCipher.orFail _).bind fun cipher =>
    ((accepts_readScheme count).orFail _).bind fun scheme => (hParameters.orFail _).bind
      fun parameters => Reader.accepts_pure _).congr fun b area => ?_
  constructor
  · rintro ⟨cipher, _, _, rfl, ⟨hCipher, rfl⟩, scheme, _, _, rfl, ⟨hScheme, rfl⟩, parameters, _, _,
      rfl, ⟨hType, hFits, rfl⟩, rfl, rfl⟩
    refine ⟨hType, rfl, rfl, rfl, hCipher, ?_, hFits, ?_⟩
    · rw [hCounted parameters hType]
      exact hScheme
    · simp only [List.append_assoc, List.append_nil]
  · rintro ⟨hType, rfl, rfl, rfl, hCipher, hScheme, hFits, rfl⟩
    rw [hCounted _ hType] at hScheme
    refine ⟨area.cipher, _, _, ?_, ⟨hCipher, rfl⟩, area.scheme, _, _, rfl, ⟨hScheme, rfl⟩,
      area.parameters, _, [], rfl, ⟨hType, hFits, rfl⟩, rfl, rfl⟩
    simp only [List.append_assoc, List.append_nil]

/-- A public area is read **from the front** of a string. -/
theorem accepts_read : Reader.Accepts read Form := by
  refine Reader.Accepts.congr ((Reader.accepts_u16.orFail _).bind fun type =>
    (Reader.accepts_u16.orFail _).bind fun nameAlgorithm =>
      (Reader.accepts_u32.orFail _).bind fun attributes =>
        (Reader.accepts_sized.orFail _).bind
          (k := fun policy b (area : PublicArea) => type = (typeOf area.parameters).id ∧
            RestForm nameAlgorithm attributes policy b area) fun policy => ?_) fun b area => ?_
  · -- The type decides what is behind the policy; those of other objects are refused.
    split
    · rename_i hType
      refine (accepts_readRest accepts_readRsa ?_ nameAlgorithm attributes policy).congr
        fun b area => and_congr_left fun _ => ?_
      · rintro (_ | _) ⟨⟩
        rfl
      · rw [← Algorithm.ofId?_eq_some_iff, hType, Option.some.injEq, eq_comm]
    · rename_i hType
      refine (accepts_readRest accepts_readEcc ?_ nameAlgorithm attributes policy).congr
        fun b area => and_congr_left fun _ => ?_
      · rintro (_ | _) ⟨⟩
        rfl
      · rw [← Algorithm.ofId?_eq_some_iff, hType, Option.some.injEq, eq_comm]
    · rename_i hRsa hEcc
      refine (Reader.accepts_throw _).congr fun b area => ⟨False.elim, ?_⟩
      rintro ⟨hType, -⟩
      rw [← Algorithm.ofId?_eq_some_iff] at hType
      cases hParameters : area.parameters with
      | rsa => exact hRsa (by rw [hType, hParameters, typeOf])
      | ecc => exact hEcc (by rw [hType, hParameters, typeOf])
  · constructor
    · rintro ⟨type, _, _, rfl, rfl, nameAlgorithm, _, _, rfl, rfl, attributes, _, _, rfl, rfl,
        policy, _, _, rfl, ⟨rfl, hPolicy⟩, rfl, rfl, rfl, rfl, hCipher, hScheme, hFits, rfl⟩
      exact ⟨⟨hPolicy, hCipher, hScheme, hFits⟩, by simp only [write, List.append_assoc]⟩
    · rintro ⟨⟨hPolicy, hCipher, hScheme, hFits⟩, rfl⟩
      refine ⟨_, _, _, ?_, rfl, area.nameAlgorithm, _, _, rfl, rfl, area.attributes, _, _, rfl, rfl,
        area.policy, _, _, rfl, ⟨rfl, hPolicy⟩, rfl, rfl, rfl, rfl, hCipher, hScheme, hFits, rfl⟩
      simp only [write, List.append_assoc]

/-- **The strings that begin with an area**, and the area that each of them begins with. -/
theorem parse_read_eq_ok_iff {b : Bytes} {area : PublicArea} :
    read.parse b = .ok area ↔ ∃ rest, area.Encodable ∧ b = area.write ++ rest := by
  rw [accepts_read.parse_eq_ok_iff]
  constructor
  · rintro ⟨form, rest, rfl, hEncodable, rfl⟩
    exact ⟨rest, hEncodable, rfl⟩
  · rintro ⟨rest, hEncodable, rfl⟩
    exact ⟨_, rest, rfl, hEncodable, rfl⟩

/-! ### The first octet -/

/-- Every public area begins with a zero, which is the first octet of its type. -/
theorem head?_write_eq_zero (area : PublicArea) (rest : Bytes) :
    (area.write ++ rest).head? = some 0 := by
  have hRsa : Wire.u16 Algorithm.rsa.id = [0, 1] := by decide
  have hEcc : Wire.u16 Algorithm.ecc.id = [0, 35] := by decide
  simp only [write, List.append_assoc]
  cases area.parameters with
  | rsa => rw [typeOf, hRsa, List.cons_append, List.head?_cons]
  | ecc => rw [typeOf, hEcc, List.cons_append, List.head?_cons]

/-- A string that begins with an area **begins with a zero**, since the identifiers of both
types do. -/
theorem head?_eq_zero_of_parse {b : Bytes} {area : PublicArea} (h : read.parse b = .ok area) :
    b.head? = some 0 := by
  obtain ⟨rest, -, rfl⟩ := parse_read_eq_ok_iff.mp h
  exact head?_write_eq_zero area rest

end RemoteAttestation.PublicArea
