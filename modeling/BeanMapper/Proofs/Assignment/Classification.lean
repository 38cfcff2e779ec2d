import BeanMapper.Proofs.Assignment.Parts

/-!
# How the type of an assignment tells its expression

The nodes of an assignment from the root down to the source value form a chain, through wrappers and
through what conversions and calls are applied to. The type of an assignment is worked out node by
node, from a table with cases for all that is left over. What it tells of the chain in the end is
simple: whether there is a conversion, and if there is none, whether there are no calls, one, or
more of them (`type_of_unconverted`). Wrappers may stand anywhere and do not matter
(`type_tells_chain`).
-/

namespace BeanMapper

/-! ## Tables -/

namespace AssignmentType

theorem isConverted_convert (type : AssignmentType) : type.convert.isConverted = true := by
  cases type <;> rfl

theorem isConverted_map (type : AssignmentType) : type.map.isConverted = type.isConverted := by
  cases type <;> rfl

/-- The type of an assignment with this many calls and no conversion. -/
def ofCalls : Nat → AssignmentType
  | 0 => direct
  | 1 => mapped
  | _ + 2 => mappedTwice

theorem map_ofCalls (n : Nat) : (ofCalls n).map = ofCalls (n + 1) := by
  rcases n with _ | _ | n <;> rfl

theorem ofCalls_eq_direct_iff {n : Nat} : ofCalls n = direct ↔ n = 0 := by
  rcases n with _ | _ | n <;> simp [ofCalls]

theorem ofCalls_eq_mapped_iff {n : Nat} : ofCalls n = mapped ↔ n = 1 := by
  rcases n with _ | _ | n <;> simp [ofCalls]

theorem ofCalls_eq_called_iff {n : Nat} :
    ofCalls n = mapped ∨ ofCalls n = mappedTwice ↔ 0 < n := by
  rcases n with _ | _ | n <;> simp [ofCalls]

end AssignmentType

namespace Assignment

/-! ## Chains -/

/-- What a node of an assignment does with the value of the node beneath it. -/
inductive Link where
  | source
  | conversion
  | call
  | wrapper
  deriving DecidableEq

/-- The nodes of an assignment on the way from the root to the end: to what a wrapper is around, and
to what a conversion or a call is applied to. -/
def chain : Assignment → List Link
  | direct _ _ => [.source]
  | convert _ argument => .conversion :: argument.chain
  | call (.mk _ none) => [.call]
  | call (.mk _ (some argument)) => .call :: argument.chain
  | nullCheck _ inner => .wrapper :: inner.chain
  | merge _ _ _ inner => .wrapper :: inner.chain
  | setter _ inner _ => .wrapper :: inner.chain

/-- The assignment without the wrappers that are on the way to its end. -/
def unwrapped : Assignment → Assignment
  | direct value presence => direct value presence
  | convert conversion argument => convert conversion argument.unwrapped
  | call (.mk c none) => call (.mk c none)
  | call (.mk c (some argument)) => call (.mk c (some argument.unwrapped))
  | nullCheck _ inner => inner.unwrapped
  | merge _ _ _ inner => inner.unwrapped
  | setter _ inner _ => inner.unwrapped

theorem chain_unwrapped (a : Assignment) : a.unwrapped.chain = a.chain.filter (· ≠ .wrapper) := by
  induction a using byParts with
  | direct value presence => simp [unwrapped, chain]
  | convert conversion argument ih => simp [unwrapped, chain, ih]
  | refer c => simp [unwrapped, chain]
  | apply c argument ih => simp [unwrapped, chain, ih]
  | nullCheck guard inner ih => simp [unwrapped, chain, ih]
  | merge guard check property inner ih => simp [unwrapped, chain, ih]
  | setter setting inner fallback ih => simp [unwrapped, chain, ih]

theorem type_unwrapped (a : Assignment) : a.unwrapped.type = a.type := by
  induction a using byParts with
  | direct value presence => rfl
  | convert conversion argument ih => simp [unwrapped, type, ih]
  | refer c => rfl
  | apply c argument ih => simp [unwrapped, type, ih]
  | nullCheck guard inner ih => simp [unwrapped, type, ih]
  | merge guard check property inner ih => simp [unwrapped, type, ih]
  | setter setting inner fallback ih => simp [unwrapped, type, ih]

/-! ## What the type tells -/

/-- A conversion is told wherever it is, and it is not forgotten further up. -/
theorem isConverted_type_iff {a : Assignment} :
    a.type.isConverted = true ↔ .conversion ∈ a.chain := by
  induction a using byParts with
  | direct value presence => simp [type, chain, AssignmentType.isConverted]
  | convert conversion argument ih => simp [type, chain, AssignmentType.isConverted_convert]
  | refer c => simp [type, chain, AssignmentType.isConverted]
  | apply c argument ih => simp [type, chain, AssignmentType.isConverted_map, ih]
  | nullCheck guard inner ih => simp [type, chain, ih]
  | merge guard check property inner ih => simp [type, chain, ih]
  | setter setting inner fallback ih => simp [type, chain, ih]

/-- Without a conversion the type tells how many calls there are, up to two. -/
theorem type_of_unconverted {a : Assignment} (h : .conversion ∉ a.chain) :
    a.type = .ofCalls (a.chain.count .call) := by
  induction a using byParts with
  | direct value presence => simp [type, chain, AssignmentType.ofCalls]
  | convert conversion argument ih => simp [chain] at h
  | refer c => simp [type, chain, AssignmentType.ofCalls]
  | apply c argument ih =>
    have hargument : .conversion ∉ argument.chain := fun hmem => h (by simp [chain, hmem])
    simp [type, chain, ih hargument, AssignmentType.map_ofCalls]
  | nullCheck guard inner ih =>
    have hinner : .conversion ∉ inner.chain := fun hmem => h (by simp [chain, hmem])
    simp [type, chain, ih hinner]
  | merge guard check property inner ih =>
    have hinner : .conversion ∉ inner.chain := fun hmem => h (by simp [chain, hmem])
    simp [type, chain, ih hinner]
  | setter setting inner fallback ih =>
    have hinner : .conversion ∉ inner.chain := fun hmem => h (by simp [chain, hmem])
    simp [type, chain, ih hinner]

/-- A type without a conversion is that of the assignments with its number of calls. -/
theorem type_eq_iff {a : Assignment} {way : AssignmentType} (h : way.isConverted = false) :
    a.type = way ↔ .conversion ∉ a.chain ∧ .ofCalls (a.chain.count .call) = way := by
  constructor
  · intro htype
    have hchain : .conversion ∉ a.chain := by
      rw [← isConverted_type_iff, htype, h]
      exact Bool.false_ne_true
    exact ⟨hchain, (type_of_unconverted hchain).symm.trans htype⟩
  · rintro ⟨hchain, hcalls⟩
    exact (type_of_unconverted hchain).trans hcalls

/-- **The type tells the expression.** An assignment counts as converted exactly if a conversion is
on its chain; it is direct exactly if neither a conversion nor a call is on it; it is mapped, once
or twice, exactly if a call is on it and no conversion; and it is mapped once exactly if that call
is the only one. It is the same without its wrappers, wherever on the chain they are. -/
theorem type_tells_chain (a : Assignment) :
    (a.type.isConverted = true ↔ .conversion ∈ a.chain) ∧
    (a.type = .direct ↔ .conversion ∉ a.chain ∧ .call ∉ a.chain) ∧
    (a.type = .mapped ∨ a.type = .mappedTwice ↔ .conversion ∉ a.chain ∧ .call ∈ a.chain) ∧
    (a.type = .mapped ↔ .conversion ∉ a.chain ∧ a.chain.count .call = 1) ∧
    a.unwrapped.chain = a.chain.filter (· ≠ .wrapper) ∧ a.unwrapped.type = a.type := by
  have hdirect : a.type = .direct ↔ .conversion ∉ a.chain ∧ .call ∉ a.chain := by
    rw [type_eq_iff rfl, AssignmentType.ofCalls_eq_direct_iff, List.count_eq_zero]
  have hmapped : a.type = .mapped ↔ .conversion ∉ a.chain ∧ a.chain.count .call = 1 := by
    rw [type_eq_iff rfl, AssignmentType.ofCalls_eq_mapped_iff]
  have hcalled : a.type = .mapped ∨ a.type = .mappedTwice ↔
      .conversion ∉ a.chain ∧ .call ∈ a.chain := by
    rw [type_eq_iff rfl, type_eq_iff rfl, ← and_or_left, AssignmentType.ofCalls_eq_called_iff,
      List.count_pos_iff]
  exact ⟨isConverted_type_iff, hdirect, hcalled, hmapped, chain_unwrapped a, type_unwrapped a⟩

end Assignment

end BeanMapper
