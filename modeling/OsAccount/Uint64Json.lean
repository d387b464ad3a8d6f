import OsAccount.DefaultActivatedIds
import OsAccount.Strtoull

namespace OsAccount.Uint64Json

open JsonUtils Strtoull

def addUint64ToJson (j : Json) (key : String) (value : UInt64) : Json := addStringToJson j key (toString value.toNat)

/-- Whether there is a number, and what is in the caller's variable afterwards: a conversion writes it before
its outcome is looked at. `castDouble` converts the `double` in which the library keeps a JSON number. -/
def getUint64FromJson (castDouble : Int → UInt64) (j : Json) (key : String) (value : UInt64) : Bool × UInt64 :=
  match getItemByText j key with
  | none => (false, value)
  | some (.str s) =>
      let str := cStr s
      if str = [] then (false, value)
      else
        let conversion := strtoull str
        if conversion.endptr = str ∨ conversion.endptr ≠ [] ∨ conversion.erange then (false, conversion.value)
        else (true, conversion.value)
  | some (.num n) => (true, castDouble n)
  | some _ => (false, value)

variable {castDouble : Int → UInt64} {j : Json} {key s : String} {value v : UInt64}

theorem getUint64FromJson_str (h : getItemByText j key = some (.str s)) :
    getUint64FromJson castDouble j key value = (true, v) ↔
      ∃ sign n, IsSign sign ∧ Signed sign (cStr s) n ∧ n < 2 ^ 64 ∧ v = unsignedValue (decide (sign = ['-'])) n := by
  rw [getUint64FromJson, h]
  dsimp only
  constructor
  · intro hget
    split at hget
    · cases hget
    · split at hget
      · cases hget
      · rename_i hwhole
        rw [not_or, not_or, not_ne_iff] at hwhole
        obtain ⟨sign, n, hsign, hsigned⟩ := endptr_eq_nil_iff.mp ⟨hwhole.1, hwhole.2.1⟩
        rw [hsigned.strtoull_eq hsign] at hget hwhole
        refine ⟨sign, n, hsign, hsigned, ?_, (Prod.mk.inj hget).2.symm⟩
        simpa using hwhole.2.2
  · rintro ⟨sign, n, hsign, hsigned, hfits, rfl⟩
    have hwhole := endptr_eq_nil_iff.mpr ⟨sign, n, hsign, hsigned⟩
    have hne : cStr s ≠ [] := by
      intro hnil
      rw [hnil] at hwhole
      exact hwhole.1 rfl
    have hrange : (strtoull (cStr s)).erange = false := by
      rw [hsigned.strtoull_eq hsign]
      exact decide_eq_false (Nat.not_le_of_lt hfits)
    rw [if_neg hne, if_neg (by rw [hrange]; simp [hwhole, hne]), hsigned.strtoull_eq hsign]

theorem getUint64FromJson_of_numeral {n : Nat} (h : getItemByText j key = some (.str s)) (hs : Numeral (cStr s) n)
    (hfits : n < 2 ^ 64) : getUint64FromJson castDouble j key value = (true, UInt64.ofNat n) := by
  rw [getUint64FromJson_str h]
  rcases hs with hs | hs
  · exact ⟨[], n, .inl rfl, hs, hfits, (if_pos hfits).symm⟩
  · exact ⟨['+'], n, .inr (.inl rfl), hs, hfits, (if_pos hfits).symm⟩

/-- A number is read back as it was stored. The texts that are read as a number which they are not are those
of numbers with a minus sign: `ERANGE` is not raised for them. -/
theorem getUint64FromJson_exact_iff (castDouble : Int → UInt64) :
    (∀ (j : Json) (key : String) (v value : UInt64), isObject j = true → key ≠ "" →
      getUint64FromJson castDouble (addUint64ToJson j key v) key value = (true, v)) ∧
      ∀ (j : Json) (key s : String), getItemByText j key = some (.str s) →
        ((∀ value v, getUint64FromJson castDouble j key value = (true, v) → Numeral (cStr s) v.toNat) ↔
          ¬∃ n, Negated (cStr s) n) := by
  constructor
  · intro j key v value hj hkey
    have hitem : getItemByText (addUint64ToJson j key v) key = some (.str (toString v.toNat)) := by
      rw [addUint64ToJson, addStringToJson, getItemByText_setItemByText hj hkey, if_pos ⟨rfl, hkey⟩,
        (CText.noNul_toString_nat v.toNat).cStr]
    rw [getUint64FromJson_of_numeral hitem (numeral_toString v.toNat) v.toNat_lt, UInt64.ofNat_toNat]
  · intro j key s hitem
    constructor
    · rintro hexact ⟨n, hnegated⟩
      have hget : getUint64FromJson castDouble j key 0 = (true, unsignedValue true n) :=
        (getUint64FromJson_str hitem).mpr ⟨['-'], n, .inr (.inr rfl), hnegated.1, hnegated.2, rfl⟩
      exact hnegated.not_numeral (hexact 0 _ hget)
    · intro hnot value v hget
      obtain ⟨sign, n, hsign, hsigned, hfits, rfl⟩ := (getUint64FromJson_str hitem).mp hget
      have hvalue : (UInt64.ofNat n).toNat = n := UInt64.toNat_ofNat_of_lt' hfits
      rcases hsign with rfl | rfl | rfl
      · rw [unsignedValue, if_pos hfits]
        exact .inl (hvalue.symm ▸ hsigned)
      · rw [unsignedValue, if_pos hfits]
        exact .inr (hvalue.symm ▸ hsigned)
      · exact absurd ⟨n, hsigned, hfits⟩ hnot

def credential (text : String) : Json := .obj [("credentialId", .str text)]

theorem getUint64FromJson_exact_iff_credential :
    getUint64FromJson (fun n => UInt64.ofInt n) (addUint64ToJson (credential "+7") "credentialId" 18446744073709551615)
        "credentialId" 0 = (true, 18446744073709551615) ∧
      ((∀ value v, getUint64FromJson (fun n => UInt64.ofInt n) (credential "+7") "credentialId" value = (true, v) →
        Numeral (cStr "+7") v.toNat) ↔ ¬∃ n, Negated (cStr "+7") n) :=
  ⟨(getUint64FromJson_exact_iff fun n => UInt64.ofInt n).1 (credential "+7") "credentialId" _ 0 rfl (by decide),
    (getUint64FromJson_exact_iff fun n => UInt64.ofInt n).2 (credential "+7") "credentialId" "+7" rfl⟩

/-- The text `-1` is read as the greatest number of 64 bits. -/
theorem not_exact_minusOne :
    getUint64FromJson (fun n => UInt64.ofInt n) (credential "-1") "credentialId" 0 = (true, 18446744073709551615) ∧
      ¬Numeral (cStr "-1") 18446744073709551615 := by
  have hnegated : Negated (cStr "-1") 1 := ⟨⟨[], ['1'], by decide, nofun, by decide⟩, by decide⟩
  refine ⟨?_, hnegated.not_numeral⟩
  rw [getUint64FromJson_str rfl]
  exact ⟨['-'], 1, .inr (.inr rfl), hnegated.1, hnegated.2, by decide⟩

end OsAccount.Uint64Json
