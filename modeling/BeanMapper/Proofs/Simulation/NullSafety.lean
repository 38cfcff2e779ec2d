import BeanMapper.Mapper.Generated
import BeanMapper.Proofs.Generation.Mappings
import BeanMapper.Proofs.Simulation.Conversions

/-!
# Null safety of generated mappings

A generated property mapping converts no null, and sets no primitive property to null, if its
source is null only where the generator reckons with it: where it may be null by its type or its
path, where a constant takes its place, or where its presence is checked. The guard that the
wrapper puts around an assignment is what both need: without it the source is there, or constant,
or the value is not converted and the property not primitive (`present_of_unchecked`).
-/

namespace BeanMapper

theorem ClassTable.isContainer_of_isPrimitive {table : ClassTable} {ty : Ty}
    (h : ty.isPrimitive = true) : table.isContainer ty = false := by
  cases ty with
  | primitive p => rfl
  | _ => cases h

namespace Simulation

open Run

/-- A source is null only where the generator reckons with it. -/
def Reckoned (value : SourceValue) (presence : Presence) (source : Value) : Prop :=
  source = .null → value.isNullable = true ∨ value.isConstant = true ∨ presence.isChecked = true

namespace Simulator

variable {simulator : Simulator} {conversions : Conversions} {slot source result : Value}
  {heap heap' : Heap} {wrapping : Wrapping} {assignment : Assignment}
  {fallback : Option Assignment}

/-- What the source of a wrapped assignment may be. -/
def Covered (wrapping : Wrapping) (assignment : Assignment) (source : Value) : Prop :=
  source = .null →
    wrapping.isNullable = true ∨ wrapping.isGuarded = true ∨ assignment.isConstant = true

theorem present_of_unchecked {hasFallback : Bool}
    (hcovered : Covered wrapping assignment source)
    (hs : wrapping.checksSource assignment.type.isConverted hasFallback = false) :
    (source ≠ .null ∨ assignment.isConstant = true) ∨
      (assignment.type.isConverted = false ∧ wrapping.target.ty.isPrimitive = false) := by
  simp only [Wrapping.checksSource, Bool.or_eq_false_iff] at hs
  obtain ⟨hguarded, hs⟩ := hs
  by_cases hn : source = .null
  · rcases hcovered hn with hnull | hguarded' | hconstant
    · simp only [hnull, Bool.true_and, Bool.or_eq_false_iff] at hs
      exact Or.inr ⟨hs.1.1.1.2, hs.1.1.2⟩
    · rw [hguarded] at hguarded'; cases hguarded'
    · exact Or.inl (Or.inr hconstant)
  · exact Or.inl (Or.inl hn)

/-! ## Conversions -/

theorem writeWith_container (hc : AgreeOffNull conversions) (hsim : simulator.NeverReturnsNull) :
    simulator.writeWith conversions slot source (wrapping.container assignment) =
      simulator.write slot source (wrapping.container assignment) := by
  have hpresent : source ≠ .null → simulator.evaluateWith conversions source assignment =
      simulator.evaluate source assignment :=
    fun hs => evaluateWith_of_present hc hsim (Or.inl hs)
  unfold Wrapping.container
  dsimp only
  split
  · exact mergeWith_eq hpresent
  · split
    · rw [writeWith, write]
      by_cases hs : source = .null
      · subst hs; rfl
      · rw [produceWith_eq (hpresent hs)]
    · -- An assignment that is set without a guard is not converted.
      rename_i hbare
      simp only [Bool.or_eq_true, not_or] at hbare
      have hconverted := eq_false_of_ne_true hbare.2
      rw [writeWith, write]
      refine setWith_eq (fun _ => evaluateWith_of_unconverted hconverted) ?_
      intro other ho
      cases ho

theorem writeWith_plain (hc : AgreeOffNull conversions) (hsim : simulator.NeverReturnsNull)
    (hcovered : Covered wrapping assignment source)
    (hfallback : ∀ other, fallback = some other → other.isConstant = true) :
    simulator.writeWith conversions slot source (wrapping.plain assignment fallback) =
      simulator.write slot source (wrapping.plain assignment fallback) := by
  refine setWith_eq (fun hwritten => ?_) fun other ho => ?_
  · rcases hwritten with hs | hs
    · exact evaluateWith_of_present hc hsim (Or.inl hs)
    · rcases present_of_unchecked hcovered hs with hpresent | ⟨hconverted, -⟩
      · exact evaluateWith_of_present hc hsim hpresent
      · exact evaluateWith_of_unconverted hconverted
  · exact evaluateWith_of_present hc hsim (Or.inr (hfallback other ho))

theorem writeWith_wrap (hc : AgreeOffNull conversions) (hsim : simulator.NeverReturnsNull)
    (hcovered : Covered wrapping assignment source)
    (hfallback : ∀ other, fallback = some other → other.isConstant = true) :
    simulator.writeWith conversions slot source (wrapping.wrap assignment fallback) =
      simulator.write slot source (wrapping.wrap assignment fallback) := by
  cases hcontainer : wrapping.table.isContainer wrapping.target.ty with
  | true =>
    rw [Wrapping.wrap_container _ _ _ hcontainer]
    exact writeWith_container hc hsim
  | false =>
    rw [Wrapping.wrap_plain _ _ _ hcontainer]
    exact writeWith_plain hc hsim hcovered hfallback

/-! ## Primitive properties -/

theorem write_plain_ne_null (hsim : simulator.NeverReturnsNull)
    (hcovered : Covered wrapping assignment source)
    (hfallback : ∀ other, fallback = some other → other.isConstant = true)
    (hprim : wrapping.target.ty.isPrimitive = true) (hslot : slot ≠ .null)
    (h : Returns (simulator.write slot source (wrapping.plain assignment fallback)) heap result
      heap') : result ≠ .null := by
  rw [Wrapping.plain, write] at h
  unfold set at h
  dsimp only at h
  split at h
  · rename_i hwritten
    refine produce_ne_null hsim ?_ h
    -- unchecked is only what is there; checked and null would not have been written
    cases hs : wrapping.checksSource assignment.type.isConverted fallback.isSome with
    | false =>
      rcases present_of_unchecked hcovered hs with hpresent | ⟨-, hplain⟩
      · exact hpresent
      · rw [hprim] at hplain; cases hplain
    | true =>
      refine Or.inl fun hn => ?_
      subst hn
      simp [hs, Value.isNull] at hwritten
  · cases fallback with
    | some other => exact evaluate_ne_null hsim (Or.inr (hfallback other rfl)) h
    | none =>
      dsimp only at h
      split at h
      · rename_i hreset
        -- primitive properties are never reset to null
        simp [hprim] at hreset
      · split at h
        · exact (returns_defaultValue.1 h).ne_null
        · rw [(returns_pure.1 h).1]; exact hslot

end Simulator

/-! ## Generated mappings -/

/-- A generated property mapping never converts null, since it is the same run whatever conversions
make of null; and it does not set a primitive property to null that was not null before. -/
theorem write_null_safe {mapper : MapperDecl} {table : ClassTable} {settings : Settings}
    {method : Method} {generated : GeneratedMethod} {mappings : List PropertyMapping}
    {mapping : PropertyMapping} {value : SourceValue} {presence : Presence} {source : Value}
    {simulator : Simulator}
    (hg : ((mapper.generator table settings).draft method).method = some generated)
    (hb : generated.body = .bean mappings) (hmem : mapping ∈ mappings)
    (hsource : mapping.assignment.source? = some (value, presence))
    (hreckoned : Reckoned value presence source) (hsim : simulator.NeverReturnsNull)
    (slot : Value) :
    (∀ conversions, Simulator.AgreeOffNull conversions →
        simulator.writeWith conversions slot source mapping.assignment =
          simulator.write slot source mapping.assignment) ∧
      (mapping.targetType.isPrimitive = true → slot ≠ .null → ∀ heap result heap',
        Returns (simulator.write slot source mapping.assignment) heap result heap' →
          result ≠ .null) := by
  obtain ⟨target, origin, assignment, fallback, hm⟩ := Generator.mapped_of_mem hg hb hmem
  cases hsource.symm.trans hm.source?_mapping
  have hfallback : ∀ other, fallback = some other → other.isConstant = true :=
    fun other ho => hm.isConstant_fallback ho
  have hcovered : Simulator.Covered ((mapper.generator table settings).wrappingOf method target
      (method.options.mappingFor? mapping.name) origin) assignment source := by
    intro hn
    rw [Assignment.isConstant_eq hm.source?_assignment]
    -- what may be null is reckoned with in one of three ways, each of which covers the wrapper
    rcases hreckoned hn with hnull | hconstant | hchecked
    · exact Or.inl hnull
    · exact Or.inr (Or.inr hconstant)
    · refine Or.inr (Or.inl ?_)
      simp only [Generator.wrappingOf, hchecked, Bool.true_or]
  rw [hm.assignment_eq, hm.targetType_eq]
  refine ⟨fun conversions hc => Simulator.writeWith_wrap hc hsim hcovered hfallback, ?_⟩
  intro hprim hslot heap result heap' h
  rw [Wrapping.wrap_plain _ _ _ (ClassTable.isContainer_of_isPrimitive hprim)] at h
  exact Simulator.write_plain_ne_null hsim hcovered hfallback hprim hslot h

/-! ## A mapper of totals -/

namespace Total

/-- A cart counts in boxes, a total in primitives. -/
def classes : ClassTable := .declareAll {} [
  { ClassDecl.plain "shop.Cart" with
    properties := [{ name := "count", typeText := "java.lang.Integer" }] },
  { ClassDecl.plain "shop.Total" with
    properties := [{ name := "count", typeText := "int" }] }]

/-- Where there is no count it is five. -/
def method : Method where
  name := "toTotal"
  parameters := [{ name := "cart", ty := .named "shop.Cart" }]
  returnType := .named "shop.Total"
  owner := .named "shop.TotalMapper"
  options := { mappings := [{ target := "count", defaultValue := some "5" }] }

def mapper : MapperDecl where
  ty := .named "shop.TotalMapper"
  methods := [method]

def simulator : Simulator where
  table := classes
  behavior? _ := some fun _ => return .integer 0

theorem simulator_neverReturnsNull : simulator.NeverReturnsNull := by
  intro name behavior argument heap value heap' hb h
  cases hb
  rw [(returns_pure.1 h).1]
  simp

def strict : Conversions := fun ty v => if v = .null then throw .nullDereference else convert ty v

theorem strict_agreeOffNull : Simulator.AgreeOffNull strict := by
  intro ty v hv
  rw [strict, if_neg hv]

theorem generated_toTotal : ∃ generated count source,
    ((mapper.generator classes {}).draft method).method = some generated ∧
      generated.body = .bean [count] ∧ count.targetType = .primitive .int ∧
      count.assignment.type = .converted ∧
      count.assignment.source? = some (source, .unchecked) ∧ source.isNullable = true ∧
      Returns (simulator.write (.integer 7) .null count.assignment) {} (.integer 5) {} :=
  ⟨_, _, _, rfl, rfl, rfl, rfl, rfl, rfl, rfl⟩

/-- Without a count the default is converted in its place, and no null is. -/
theorem write_null_safe_total : ∃ generated count source,
    ((mapper.generator classes {}).draft method).method = some generated ∧
      generated.body = .bean [count] ∧ count.assignment.type = .converted ∧
      count.assignment.source? = some (source, .unchecked) ∧ Reckoned source .unchecked .null ∧
      simulator.NeverReturnsNull ∧ count.targetType.isPrimitive = true ∧
      simulator.writeWith strict (.integer 7) .null count.assignment =
        simulator.write (.integer 7) .null count.assignment ∧
      Returns (simulator.write (.integer 7) .null count.assignment) {} (.integer 5) {} ∧
      Value.integer 5 ≠ .null := by
  obtain ⟨generated, count, source, hg, hb, hty, htype, hsource, hnull, hrun⟩ := generated_toTotal
  have hreckoned : Reckoned source .unchecked .null := fun _ => Or.inl hnull
  have hprim : count.targetType.isPrimitive = true := by rw [hty]; rfl
  obtain ⟨hconversions, hslot⟩ := write_null_safe hg hb (List.mem_singleton.2 rfl) hsource hreckoned
    simulator_neverReturnsNull (.integer 7)
  exact ⟨generated, count, source, hg, hb, htype, hsource, hreckoned, simulator_neverReturnsNull,
    hprim, hconversions strict strict_agreeOffNull, hrun, hslot hprim (by simp) _ _ _ hrun⟩

end Total

end Simulation

end BeanMapper
