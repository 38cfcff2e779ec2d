import BeanMapper.Assignment.Basic

/-!
# The parts of an assignment

An assignment leads from a source value at the bottom through conversions and calls up to the
wrappers. `Assignment.byParts` is the induction along that way; the default of a setter lies beside
it and counts only as far as it is asked for.
-/

namespace BeanMapper

namespace Assignment

/-- Induction on assignments, with the hypothesis for what each step is applied to. -/
@[elab_as_elim]
theorem byParts {motive : Assignment → Prop}
    (direct : ∀ value presence, motive (.direct value presence))
    (convert : ∀ conversion argument, motive argument → motive (.convert conversion argument))
    (refer : ∀ c, motive (.call (.mk c none)))
    (apply : ∀ c argument, motive argument → motive (.call (.mk c (some argument))))
    (nullCheck : ∀ guard inner, motive inner → motive (.nullCheck guard inner))
    (merge : ∀ guard check property inner, motive inner →
      motive (.merge guard check property inner))
    (setter : ∀ setting inner fallback, motive inner → motive (.setter setting inner fallback))
    (a : Assignment) : motive a :=
  @Assignment.rec motive (fun reference => motive (.call reference)) (fun _ => True)
    (fun other => ∀ a, other = some a → motive a)
    (fun value presence _ => direct value presence)
    (fun conversion argument h => convert conversion argument h)
    (fun _ h => h)
    (fun guard inner h => nullCheck guard inner h)
    (fun guard check property inner h => merge guard check property inner h)
    (fun setting inner fallback h _ => setter setting inner fallback h)
    (fun c argument h => by
      cases argument with
      | none => exact refer c
      | some argument => exact apply c argument (h argument rfl))
    trivial (fun _ => trivial) (fun _ _ => trivial)
    (fun a h => by cases h)
    (fun a h b hb => by cases hb; exact h)
    a

def isConstant (a : Assignment) : Bool := a.source?.any fun source => source.1.isConstant

/-- The source value at the bottom decides whether an assignment is constant. -/
theorem isConstant_eq {a : Assignment} {value : SourceValue} {presence : Presence}
    (h : a.source? = some (value, presence)) : a.isConstant = value.isConstant := by
  rw [isConstant, h, Option.any_some]

end Assignment

end BeanMapper
