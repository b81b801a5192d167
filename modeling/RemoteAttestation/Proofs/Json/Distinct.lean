import RemoteAttestation.Proofs.Json.Layout

/-!
# Distinct Values

Values that are laid out as the same text are the same. A layout is read back, so the text has
the source of the value in it, and the source has everything: the digits of a number, the text
of a string, and the names, the items and their order in a list or an object. The proof follows
the constructors of a value, since two sources can be the same only when they are of one kind.

## Main results

* `JsonSource.numeral_inj`: the digits of a number are those of no other.
* `Json.source_inj`: the source of a value is that of no other.
* `Json.pretty_inj`: the layout of a value is that of no other.
-/

namespace RemoteAttestation

/-- **The digits of a number** are those of no other. -/
theorem JsonSource.numeral_inj {m n : Nat} : numeral m = numeral n ↔ m = n := by
  constructor
  · intro h
    have hDigits : Nat.toDigits 10 m = Nat.toDigits 10 n := congrArg JsonNumber.whole h
    calc
      m = Nat.ofDigitChars 10 (Nat.toDigits 10 m) 0 := Nat.ofDigitChars_ten_toDigits.symm
      _ = Nat.ofDigitChars 10 (Nat.toDigits 10 n) 0 := by rw [hDigits]
      _ = n := Nat.ofDigitChars_ten_toDigits
  · rintro rfl
    rfl

namespace Json

mutual

/-- Values are told apart by what is read of them, whatever they are made of. -/
theorem source_injective : (v w : Json) → source v = source w → v = w
  | bool _, w, h => by
      cases w with
      | bool _ => rw [JsonSource.bool.inj h]
      | _ => cases h
  | number _, w, h => by
      cases w with
      | number _ => rw [JsonSource.numeral_inj.mp (JsonSource.number.inj h)]
      | _ => cases h
  | string _, w, h => by
      cases w with
      | string _ => rw [Option.some.inj (JsonSource.string.inj h)]
      | _ => cases h
  | array items, w, h => by
      cases w with
      | array others => rw [sources_injective items others (JsonSource.array.inj h).1]
      | _ => cases h
  | object members, w, h => by
      cases w with
      | object others => rw [memberSources_injective members others (JsonSource.object.inj h).1]
      | _ => cases h

/-- So are lists of values, item by item. -/
theorem sources_injective : (items others : List Json) → sources items = sources others →
    items = others
  | [], [], _ => rfl
  | [], _ :: _, h => nomatch h
  | _ :: _, [], h => nomatch h
  | item :: items, other :: others, h => by
      obtain ⟨hFirst, hRest⟩ := List.cons.inj h
      rw [source_injective item other hFirst, sources_injective items others hRest]

theorem memberSources_injective : (members others : List (String × Json)) →
    memberSources members = memberSources others → members = others
  | [], [], _ => rfl
  | [], _ :: _, h => nomatch h
  | _ :: _, [], h => nomatch h
  | (name, value) :: members, (name', value') :: others, h => by
      obtain ⟨hFirst, hRest⟩ := List.cons.inj h
      obtain ⟨hName, hValue⟩ := Prod.mk.inj hFirst
      rw [Option.some.inj hName, source_injective value value' hValue,
        memberSources_injective members others hRest]

end

/-- **The source of a value** is that of no other. -/
theorem source_inj {v w : Json} : source v = source w ↔ v = w :=
  ⟨source_injective v w, congrArg source⟩

/-- **The layout of a value** is that of no other. -/
theorem pretty_inj {v w : Json} : v.pretty = w.pretty ↔ v = w := by
  constructor
  · intro h
    have hDocument : ∀ v : Json, JsonDocument.ofText v.pretty = ⟨source v, true⟩ := fun v => by
      have hText := JsonDocument.ofText_pretty v "" (.inl rfl)
      rwa [String.append_empty] at hText
    have hSame : (⟨source v, true⟩ : JsonDocument) = ⟨source w, true⟩ := by
      rw [← hDocument, h, hDocument]
    exact source_inj.mp (JsonDocument.mk.inj hSame).1
  · rintro rfl
    rfl

end Json

end RemoteAttestation
