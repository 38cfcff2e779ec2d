import BeanMapper.Text.Case

/-!
# Words in lower case

The lower case of a character beyond ASCII is beyond ASCII itself, but for the Kelvin sign, and for
the dotted capital I, which becomes an i with a dot of its own (`lower_of_letters`). So a name whose
first character is put into lower case becomes a word of ASCII letters only if it was that word or
the capitalized word (`decapitalize_eq_iff`).
-/

namespace BeanMapper.Text

/-! ## Characters -/

variable {c : Char}

theorem toNat_lt_of_isLower (h : c.isLower = true) : c.toNat < 128 := by
  have hrange : (decide ('a'.val ≤ c.val) && decide (c.val ≤ 'z'.val)) = true := h
  rw [Bool.and_eq_true, decide_eq_true_eq, decide_eq_true_eq, UInt32.le_iff_toNat_le,
    UInt32.le_iff_toNat_le] at hrange
  have hlast : c.toNat ≤ 122 := hrange.2
  omega

/-- What the two cases of an ASCII character have to do with each other. -/
theorem ascii_cases (h : c.toNat < 128) :
    (c = c.toLower ∨ c = c.toLower.toUpper) ∧
      (c.isLower = true → c.toLower = c ∧ c.toUpper.toNat < 128 ∧ c.toUpper.toLower = c) := by
  have hall : ∀ n < 128, let c := Char.ofNat n
      (c = c.toLower ∨ c = c.toLower.toUpper) ∧
        (c.isLower = true → c.toLower = c ∧ c.toUpper.toNat < 128 ∧ c.toUpper.toLower = c) := by
    decide +kernel
  have hc := hall c.toNat h
  rwa [Char.ofNat_toNat] at hc

theorem lt_of_isLower_ofNat {n : Nat} (h : (Char.ofNat n).isLower = true) : n < 128 := by
  by_cases hvalid : n.isValidChar
  · have hn : (Char.ofNat n).toNat = n := by
      rw [Char.ofNat, dif_pos hvalid]
      rfl
    exact hn ▸ toNat_lt_of_isLower h
  · -- no character has this number, and the one that is taken instead is no letter
    have hnull : Char.ofNat n = Char.ofNat 0 := by
      rw [Char.ofNat, dif_neg hvalid]
      rfl
    rw [hnull] at h
    exact absurd h (by decide)

theorem exists_row {rows : List (Nat × Nat × Nat × Nat)} {n m : Nat}
    (h : caseRow? rows n = some m) :
    ∃ r ∈ rows, r.1 ≤ n ∧ n ≤ r.2.1 ∧ m = r.2.2.2 + (n - r.1) := by
  obtain ⟨r, hr, rfl⟩ := Option.map_eq_some_iff.1 h
  have hin := List.find?_some hr
  simp only [Bool.and_eq_true, decide_eq_true_eq] at hin
  exact ⟨r, List.mem_of_find?_eq_some hr, hin.1.1, hin.1.2, rfl⟩

/-- No character beyond ASCII has an ASCII letter as its lower case, but the Kelvin sign. -/
theorem lower_of_letters (h : ∀ d ∈ lower c, d.isLower = true) :
    (c.toNat < 128 ∧ lower c = [c.toLower]) ∨ lower c = ['k'] := by
  by_cases hc : c.toNat < 128
  · exact Or.inl ⟨hc, if_pos hc⟩
  · refine Or.inr ?_
    rw [lower, if_neg hc, caseImage] at h ⊢
    generalize hn : c.toNat = n at h hc ⊢
    split at h
    · rename_i codes hcodes
      obtain ⟨_, _, he, -⟩ := List.lookup_eq_some_iff.1 hcodes
      have hdotted : (n, codes) ∈ lowerExpansions := by simp [he]
      cases List.mem_singleton.1 hdotted
      exact absurd (h (Char.ofNat 0x307) (by decide)) (by decide)
    · have hletter := h _ (List.mem_singleton_self _)
      cases hrow : caseRow? lowerRows n with
      | none =>
        rw [hrow] at hletter
        exact absurd (hn ▸ toNat_lt_of_isLower hletter) hc
      | some m =>
        rw [hrow] at hletter
        have hm : m < 128 := lt_of_isLower_ofNat hletter
        obtain ⟨r, hr, hfirst, hlast, rfl⟩ := exists_row hrow
        have hrows : ∀ r ∈ lowerRows, r = (0x212A, 0x212A, 1, 0x6B) ∨ 128 ≤ r.2.2.2 := by
          decide +kernel
        rcases hrows r hr with rfl | himage
        · cases Nat.le_antisymm hlast hfirst
          rfl
        · omega

/-! ## Names -/

variable {name word : String}

theorem toList_mapFirst (f : Char → List Char) (name : String) :
    (mapFirst f name).toList = (name.toList.head?.map f).getD [] ++ name.toList.tail := by
  rw [mapFirst]
  split
  · rename_i hnil
    simp [hnil]
  · rename_i hcons
    simp [hcons]

/-- What becomes a word of letters is that word, in lower case or capitalized. A word that starts
with a k would have a third form, with the Kelvin sign. -/
theorem decapitalize_eq_iff {rest : List Char} (hword : word.toList = c :: rest) (hk : c ≠ 'k')
    (hletters : word.toList.all Char.isLower = true) :
    decapitalize name = word ↔ name = word ∨ name = capitalize word := by
  rw [hword, List.all_eq_true] at hletters
  have hc := hletters c List.mem_cons_self
  have hascii := toNat_lt_of_isLower hc
  obtain ⟨-, hcases⟩ := ascii_cases hascii
  obtain ⟨hlower, hupper, hback⟩ := hcases hc
  have hcapital : upper c = [c.toUpper] := if_pos hascii
  simp only [← String.toList_inj, decapitalize, capitalize, toList_mapFirst, hword]
  generalize name.toList = chars
  cases chars with
  | nil => simp [hcapital]
  | cons d ds =>
    simp only [List.head?_cons, Option.map_some, Option.getD_some, List.tail_cons, hcapital,
      List.singleton_append]
    constructor
    · intro h
      have hd : ∀ x ∈ lower d, x.isLower = true := fun x hx =>
        hletters x (h ▸ List.mem_append_left _ hx)
      -- the first letter is one of ASCII, or the Kelvin sign, which becomes a k
      rcases lower_of_letters hd with ⟨hd, himage⟩ | himage
      · rw [himage, List.singleton_append, List.cons.injEq] at h
        obtain ⟨rfl, rfl⟩ := h
        exact (ascii_cases hd).1.imp (congrArg (· :: ds)) (congrArg (· :: ds))
      · rw [himage, List.singleton_append, List.cons.injEq] at h
        exact absurd h.1.symm hk
    · rintro (h | h)
      · obtain ⟨rfl, rfl⟩ := List.cons.inj h
        rw [lower, if_pos hascii, hlower, List.singleton_append]
      · obtain ⟨rfl, rfl⟩ := List.cons.inj h
        rw [lower, if_pos hupper, hback, List.singleton_append]

end BeanMapper.Text
