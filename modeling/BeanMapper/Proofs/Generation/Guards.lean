import BeanMapper.Mapper.Generated
import BeanMapper.Proofs.Generation.Mappings

/-!
# Null checks of plain properties

A property that is no container is written by a setter, and `CheckReason` lists the reasons to check
a source that may be null before it is written: the strategy, a presence check, a nested path, a
primitive property, and a value that conversions or mapping methods make of the source. One of the
reasons does not hold. The wrapper asks whether a conversion takes part, and calls without a
conversion are none: where they are all that speaks for a check (`OnlyCalls`), the source is passed
on unchecked. `MapperDecl.checksSource_iff_not_onlyCalls` says that this is the only exception, and
`Billing.not_always_checked` is an invoice whose customer is handed to a method as it is.
-/

namespace BeanMapper

/-! ## Reasons -/

/-- A reason to check the source of a plain property for null. -/
inductive PropertyMapping.CheckReason (mapping : PropertyMapping) (options : Options)
    (value : SourceValue) (presence : Presence) : Prop where
  | always (h : options.nullValueCheck = .always)
  | present (h : presence.isChecked = true)
  | nested (h : value.isNested = true)
  | primitive (h : mapping.targetType.isPrimitive = true)
  | produced (h : mapping.assignment.type ≠ .direct)

/-- Calls without a conversion lead to the value of a property, and nothing else speaks for a
check. -/
structure PropertyMapping.OnlyCalls (mapping : PropertyMapping) (method : Method)
    (options : Options) (value : SourceValue) (presence : Presence) : Prop where
  called : mapping.assignment.type = .mapped ∨ mapping.assignment.type = .mappedTwice
  notAlways : options.nullValueCheck ≠ .always
  notChecked : presence.isChecked = false
  notNested : value.isNested = false
  notPrimitive : mapping.targetType.isPrimitive = false
  noDefault : (method.options.mappingFor? mapping.name).bind PropertyOptions.defaultValue = none
  setsNull : method.isUpdate = true → options.nullValueProperty = .setToNull

theorem AssignmentType.isConverted_eq_false_iff {type : AssignmentType} :
    type.isConverted = false ↔ type = .direct ∨ type = .mapped ∨ type = .mappedTwice := by
  cases type <;> simp [isConverted]

/-! ## Setters -/

/-- The source of a plain property goes unchecked if nothing that the wrapper knows of speaks
against it. -/
theorem Wrapping.checksSource_eq_false_iff {wrapping : Wrapping} {isConverted hasFallback : Bool}
    (hnull : wrapping.isNullable = true) :
    wrapping.checksSource isConverted hasFallback = false ↔
      wrapping.isGuarded = false ∧ wrapping.options.nullValueCheck ≠ .always ∧
        isConverted = false ∧ wrapping.target.ty.isPrimitive = false ∧ hasFallback = false ∧
        (wrapping.isUpdate = true → wrapping.options.nullValueProperty = .setToNull) := by
  simp only [checksSource, hnull, Bool.true_and, Bool.or_eq_false_iff, beq_eq_false_iff_ne, and_assoc,
    Bool.and_eq_false_iff, bne_eq_false_iff_eq]
  cases wrapping.isUpdate <;> simp

namespace Generator

variable {generator : Generator} {method : Method} {target : Property}
  {explicit : Option PropertyOptions} {source : Source} {mapping : PropertyMapping}
  {assignment : Assignment} {fallback : Option Assignment}

/-- The setter of a plain property has a fallback exactly if a default value is given. -/
theorem Mapped.isSome_fallback
    (h : Mapped generator method target explicit source mapping assignment fallback)
    (hmapping : generator.propertyMapping method target explicit source = .ok mapping)
    (hplain : generator.table.isContainer target.ty = false) :
    fallback.isSome = (explicit.bind PropertyOptions.defaultValue).isSome := by
  cases hdefault : explicit.bind PropertyOptions.defaultValue with
  | none => rw [h.fallback_none hdefault]; rfl
  | some text =>
    obtain ⟨_, other, -, hassignment⟩ := fallback_of_propertyMapping hmapping hdefault
    have hsame := h.assignment_eq.symm.trans hassignment
    rw [Wrapping.wrap_plain _ _ _ hplain, Wrapping.wrap_plain _ _ _ hplain, Wrapping.plain,
      Wrapping.plain, Assignment.setter.injEq] at hsame
    rw [hsame.2.2]; rfl

/-- The setter of a plain property with a source that may be null leaves it unchecked if none of
the reasons that the wrapper knows of holds. -/
theorem Mapped.setter
    (h : Mapped generator method target explicit source mapping assignment fallback)
    (hmapping : generator.propertyMapping method target explicit source = .ok mapping)
    (hplain : generator.table.isContainer target.ty = false)
    (hnull : source.value.isNullable = true) :
    ∃ setting, mapping.assignment = .setter setting assignment fallback ∧
      (setting.checksSource = false ↔
        (source.presence.isChecked = false ∧ source.value.isNested = false) ∧
          (generator.wrappingOf method target explicit source).options.nullValueCheck ≠ .always ∧
          mapping.assignment.type.isConverted = false ∧ target.ty.isPrimitive = false ∧
          explicit.bind PropertyOptions.defaultValue = none ∧
          (method.isUpdate = true →
            (generator.wrappingOf method target explicit source).options.nullValueProperty =
              .setToNull)) := by
  have htype : mapping.assignment.type = assignment.type := by
    rw [h.assignment_eq, Wrapping.type_wrap]
  have hdefault : explicit.bind PropertyOptions.defaultValue = none ↔ fallback.isSome = false := by
    rw [h.isSome_fallback hmapping hplain, Option.isSome_eq_false_iff, Option.isNone_iff_eq_none]
  rw [htype, h.assignment_eq, Wrapping.wrap_plain _ _ _ hplain]
  refine ⟨_, rfl, ?_⟩
  rw [← Bool.or_eq_false_iff, hdefault]
  exact Wrapping.checksSource_eq_false_iff hnull

end Generator

namespace MapperDecl

variable {mapper : MapperDecl} {table : ClassTable} {settings : Settings} {method : Method}
  {generated : GeneratedMethod} {mappings : List PropertyMapping} {mapping : PropertyMapping}
  {value : SourceValue} {presence : Presence} {options : Options}

/-- **A plain property is checked for every reason but calls alone.** In a generated bean method, a
property that is no container and has a source that may be null is written by a setter; and if there
is a reason to check the source, then the setter checks it, unless calls without a conversion are
all there is. -/
theorem checksSource_iff_not_onlyCalls
    (hg : ((mapper.generator table settings).draft method).method = some generated)
    (hb : generated.body = .bean mappings) (hmem : mapping ∈ mappings)
    (hplain : table.isContainer mapping.targetType = false)
    (hsource : mapping.assignment.source? = some (value, presence))
    (hnull : value.isNullable = true)
    (hoptions : options = (mapper.generator table settings).propertyOptions method mapping.name) :
    ∃ setting inner fallback, mapping.assignment = .setter setting inner fallback ∧
      (mapping.CheckReason options value presence →
        (setting.checksSource = true ↔ ¬mapping.OnlyCalls method options value presence)) := by
  obtain ⟨target, source, hmapping⟩ := Generator.propertyMapping_of_mem hg hb hmem
  obtain ⟨assignment, fallback, hm⟩ := Generator.propertyMapping_mapped hmapping
  cases hsource.symm.trans hm.source?_mapping
  rw [hm.targetType_eq] at hplain
  obtain ⟨setting, hsetter, hchecks⟩ := hm.setter hmapping hplain hnull
  have hopt : ((mapper.generator table settings).wrappingOf method target
    (method.options.mappingFor? mapping.name) source).options = options := by rw [hoptions]; rfl
  rw [hopt, ← hm.targetType_eq, AssignmentType.isConverted_eq_false_iff] at hchecks
  refine ⟨setting, assignment, fallback, hsetter, fun hreason => ?_⟩
  rw [← Bool.not_eq_false, hchecks]
  refine not_congr ⟨?_, fun h => ?_⟩
  · rintro ⟨⟨hpresence, hnested⟩, hnotAlways, htype, hprimitive, hdefault, hproperty⟩
    refine ⟨?_, hnotAlways, hpresence, hnested, hprimitive, hdefault, hproperty⟩
    -- a value that is taken as it is leaves no reason over
    refine htype.resolve_left fun hdirect => ?_
    cases hreason with
    | always h => exact hnotAlways h
    | present h => rw [hpresence] at h; cases h
    | nested h => rw [hnested] at h; cases h
    | primitive h => rw [hprimitive] at h; cases h
    | produced h => exact h hdirect
  · exact ⟨⟨h.notChecked, h.notNested⟩, h.notAlways, Or.inr h.called, h.notPrimitive, h.noDefault,
      h.setsNull⟩

end MapperDecl

/-! ## A mapper of invoices -/

namespace Billing

/-- An order has a customer and a total, and so has an invoice, where the customer is a party and
the total primitive. -/
def classes : ClassTable := .declareAll {} [.plain "shop.Customer", .plain "shop.Party",
  { ClassDecl.plain "shop.Order" with
    properties := [
      { name := "customer", typeText := "shop.Customer" },
      { name := "total", typeText := "java.lang.Integer" }] },
  { ClassDecl.plain "shop.Invoice" with
    properties := [
      { name := "customer", typeText := "shop.Party" },
      { name := "total", typeText := "int" }] }]

def toInvoice : Method where
  name := "toInvoice"
  parameters := [{ name := "order", ty := .named "shop.Order" }]
  returnType := .named "shop.Invoice"
  owner := .named "shop.InvoiceMapper"

def toParty : Method where
  name := "toParty"
  parameters := [{ name := "customer", ty := .named "shop.Customer" }]
  returnType := .named "shop.Party"
  owner := .named "shop.InvoiceMapper"
  isAbstract := false

def mapper : MapperDecl where
  ty := .named "shop.InvoiceMapper"
  methods := [toInvoice, toParty]

/-- The total is converted and the customer mapped, both from sources that may be null. Only the
setter of the total checks its source. -/
theorem generated_invoice : ∃ generated customer total customerSource totalSource,
    ((mapper.generator classes {}).draft toInvoice).method = some generated ∧
      generated.body = .bean [customer, total] ∧ customer.name = "customer" ∧
      total.name = "total" ∧ customer.targetType = .named "shop.Party" ∧
      total.targetType = .primitive .int ∧ customer.assignment.type = .mapped ∧
      total.assignment.type = .converted ∧
      customer.assignment.source? = some (customerSource, .unchecked) ∧
      customerSource.isNullable = true ∧ customerSource.isNested = false ∧
      total.assignment.source? = some (totalSource, .unchecked) ∧ totalSource.isNullable = true ∧
      ∃ inner, customer.assignment = .setter { target := .named "shop.Party" } inner none :=
  ⟨_, _, _, _, _, rfl, rfl, rfl, rfl, rfl, rfl, rfl, rfl, rfl, rfl, rfl, rfl, rfl, _, rfl⟩

/-- The total is checked: it is converted, and the property is primitive. -/
theorem checksSource_iff_not_onlyCalls_total : ∃ generated customer total source,
    ((mapper.generator classes {}).draft toInvoice).method = some generated ∧
      generated.body = .bean [customer, total] ∧ classes.isContainer total.targetType = false ∧
      total.assignment.source? = some (source, .unchecked) ∧ source.isNullable = true ∧
      total.CheckReason ((mapper.generator classes {}).propertyOptions toInvoice total.name) source
        .unchecked ∧
      ∃ setting inner fallback, total.assignment = .setter setting inner fallback ∧
        setting.checksSource = true := by
  obtain ⟨generated, customer, total, -, source, hg, hb, -, -, -, hty, -, htype, -, -, -, hsource,
    hnull, -⟩ := generated_invoice
  have hplain : classes.isContainer total.targetType = false := by rw [hty]; rfl
  have hreason : total.CheckReason ((mapper.generator classes {}).propertyOptions toInvoice
      total.name) source .unchecked := .primitive (by rw [hty]; rfl)
  obtain ⟨setting, inner, fallback, hsetter, hchecks⟩ :=
    MapperDecl.checksSource_iff_not_onlyCalls hg hb (by simp) hplain hsource hnull rfl
  refine ⟨generated, customer, total, source, hg, hb, hplain, hsource, hnull, hreason, setting,
    inner, fallback, hsetter, (hchecks hreason).2 fun honly => ?_⟩
  have hcalled := honly.called
  rw [htype] at hcalled
  simp at hcalled

/-- The customer is mapped by a method and not checked. -/
theorem not_always_checked : ¬∀ (mapper : MapperDecl) (table : ClassTable) (settings : Settings)
    (method : Method) (generated : GeneratedMethod) (mappings : List PropertyMapping)
    (mapping : PropertyMapping) (value : SourceValue) (presence : Presence),
    ((mapper.generator table settings).draft method).method = some generated →
    generated.body = .bean mappings → mapping ∈ mappings →
    table.isContainer mapping.targetType = false →
    mapping.assignment.source? = some (value, presence) → value.isNullable = true →
    mapping.CheckReason ((mapper.generator table settings).propertyOptions method mapping.name)
      value presence →
    ∃ setting inner fallback, mapping.assignment = .setter setting inner fallback ∧
      setting.checksSource = true := by
  intro hall
  obtain ⟨generated, customer, total, source, -, hg, hb, -, -, hty, -, htype, -, hsource, hnull, -,
    -, -, inner, hsetter⟩ := generated_invoice
  obtain ⟨setting, inner', fallback, hsetter', hchecks⟩ := hall mapper classes {} toInvoice generated
    [customer, total] customer source .unchecked hg hb (by simp)
    (by rw [hty]; decide +kernel) hsource hnull (.produced (by rw [htype]; decide))
  rw [hsetter, Assignment.setter.injEq] at hsetter'
  rw [← hsetter'.1] at hchecks
  cases hchecks

end Billing

end BeanMapper
