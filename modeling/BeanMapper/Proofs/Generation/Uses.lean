import BeanMapper.Proofs.Generation.Calls

/-!
# Used mappers and helpers

The generated class holds an instance of every other mapper that provides a method which it calls,
and it carries the helpers that it calls. Both are gathered from the list of all calls. The list
names a presence check, but it does not look into what the check is applied to. Nothing is missed
there, since a check is applied to the bare value: a made assignment lists the calls of its whole
tree (`Assignment.Made.calls_eq`). So what is gathered is what is used (`MapperDecl.uses_gathered`).
-/

namespace BeanMapper

/-! ## Listed calls -/

namespace Assignment

/-- The list of calls follows the tree, with a presence check in the place of its value. -/
theorem Made.calls_eq {resolver : Resolver} {a : Assignment} (h : a.Made resolver) :
    a.calls = a.references.map Reference.call := by
  induction h with
  | unchecked value => rw [calls, references_direct, Presence.references_unchecked]; rfl
  | accessor value expression => rw [calls, references_direct, Presence.references_accessor]; rfl
  | checked value hs htakes =>
    rw [calls, references_direct, Presence.references_method, Reference.references_apply,
      references_direct, Presence.references_unchecked]
    rfl
  | convert _ _ ih => rw [calls, references_convert, ih]
  | call hs htakes _ ih =>
    rw [calls, references_call, Reference.references_apply, List.map_cons, ← ih]
    rfl
  | nullCheck guard _ ih => rw [calls, references_nullCheck, ih]
  | merge guard check property _ ih => rw [calls, references_merge, ih]
  | @setter setting inner fallback _ _ ih ihfallback =>
    rw [references_setter, List.map_append, ← ih]
    cases fallback with
    | none => rw [calls, Option.toList_none, List.flatMap_nil, List.map_nil, List.append_nil]
    | some other =>
      rw [calls, Option.toList_some, List.flatMap_singleton, ihfallback other rfl]

end Assignment

/-- A mapper does not count among the mappers that it uses. -/
theorem Call.providerOf_ne_self (mapper : Ty) (candidate : Candidate) :
    providerOf mapper candidate ≠ .usedMapper mapper := by
  unfold providerOf
  split
  · nofun
  · split
    · nofun
    · rename_i hne
      rintro ⟨⟩
      exact hne rfl

namespace GeneratedMethod

/-- A method lists all its calls. -/
theorem CallsChosen.calls_eq {resolver : Resolver} {method : GeneratedMethod}
    (h : method.CallsChosen resolver) : method.calls = method.allReferences.map Reference.call := by
  have hroots : method.references.flatMap Reference.references = method.references :=
    calc method.references.flatMap Reference.references
        = method.references.flatMap fun reference => [reference] :=
          List.flatMap_congr fun reference hmem => (h.bare reference hmem).references
      _ = method.references := List.flatMap_singleton' _
  have hparts : (method.parts.flatMap fun part => part.2.calls) =
      method.parts.flatMap fun part => part.2.references.map Reference.call :=
    List.flatMap_congr fun part hmem => (h.made part hmem).calls_eq
  rw [calls, allReferences, hroots, hparts, List.map_append, List.map_flatMap]

end GeneratedMethod

/-! ## Gathered names -/

namespace GeneratedMapper

/-- Some method of the mapper makes a call, wherever in it. -/
def Makes (mapper : GeneratedMapper) (call : Call) : Prop :=
  ∃ method ∈ mapper.methods, ∃ reference ∈ method.allReferences, reference.call = call

variable {mapper : GeneratedMapper}

theorem mem_calls_iff {resolver : Resolver}
    (h : ∀ method ∈ mapper.methods, method.CallsChosen resolver) (call : Call) :
    call ∈ mapper.calls ↔ mapper.Makes call := by
  rw [calls, List.mem_flatMap]
  refine exists_congr fun method => and_congr_right fun hm => ?_
  rw [(h method hm).calls_eq, List.mem_map]

theorem mem_usedMappers_iff {ty : Ty} :
    ty ∈ mapper.usedMappers ↔ ∃ call ∈ mapper.calls, call.provider = .usedMapper ty := by
  rw [usedMappers, mem_distinct, List.mem_filterMap]
  refine exists_congr fun call => and_congr_right fun _ => ?_
  cases call.provider with
  | mapper => exact iff_of_false nofun nofun
  | helper => exact iff_of_false nofun nofun
  | usedMapper owner => rw [Option.some.injEq, Provider.usedMapper.injEq]

theorem mem_usedHelpers_iff {name : String} :
    name ∈ mapper.usedHelpers ↔
      ∃ call ∈ mapper.calls, call.provider = .helper ∧ call.name = name := by
  rw [usedHelpers, mem_distinct, List.mem_filterMap]
  refine exists_congr fun call => and_congr_right fun _ => ?_
  cases call.provider with
  | mapper => exact iff_of_false nofun nofun
  | helper => rw [Option.some.injEq, and_iff_right rfl]
  | usedMapper owner => exact iff_of_false nofun nofun

end GeneratedMapper

namespace MapperDecl

/-- **What is used is gathered, once each.** The gathered mappers are those that provide a method
which some generated method calls, be it as a factory or a callback, in an assignment, in what a
method is applied to, in a default value or in a presence check; and the gathered helpers are those
that are called so. None is gathered twice. -/
theorem uses_gathered (mapper : MapperDecl) (table : ClassTable) (settings : Settings) :
    let generated := mapper.generate table settings
    (generated.usedMappers.Nodup ∧
      ∀ ty, ty ∈ generated.usedMappers ↔
        ∃ call, generated.Makes call ∧ call.provider = .usedMapper ty) ∧
    generated.usedHelpers.Nodup ∧
      ∀ name, name ∈ generated.usedHelpers ↔
        ∃ call, generated.Makes call ∧ call.provider = .helper ∧ call.name = name := by
  intro generated
  have hcalls : ∀ call, call ∈ generated.calls ↔ generated.Makes call :=
    GeneratedMapper.mem_calls_iff fun _ hm => callsChosen_of_mem hm
  refine ⟨⟨nodup_distinct _, fun ty => ?_⟩, nodup_distinct _, fun name => ?_⟩
  · simp only [GeneratedMapper.mem_usedMappers_iff, hcalls]
  · simp only [GeneratedMapper.mem_usedHelpers_iff, hcalls]

/-- A used mapper provides a method that is called somewhere. -/
theorem mem_usedMappers_generate {mapper : MapperDecl} {table : ClassTable} {settings : Settings}
    {ty : Ty} : ty ∈ (mapper.generate table settings).usedMappers ↔
      ∃ call, (mapper.generate table settings).Makes call ∧ call.provider = .usedMapper ty := by
  rw [GeneratedMapper.mem_usedMappers_iff]
  refine exists_congr fun call => and_congr_left fun _ => ?_
  exact GeneratedMapper.mem_calls_iff (fun _ hm => callsChosen_of_mem hm) call

/-- A generated class holds no instance of the mapper that it implements. -/
theorem ty_not_mem_usedMappers (mapper : MapperDecl) (table : ClassTable) (settings : Settings) :
    mapper.ty ∉ (mapper.generate table settings).usedMappers := by
  intro hmem
  obtain ⟨call, ⟨method, hm, reference, hr, rfl⟩, hprovider⟩ := mem_usedMappers_generate.1 hmem
  obtain ⟨s, hs⟩ := mapper.exists_selected table settings method hm reference hr
  rw [hs] at hprovider
  exact Call.providerOf_ne_self _ _ hprovider

end MapperDecl

/-! ## Entries of a diary -/

namespace Diary

/-- A note and an entry both have a day, of one kind or the other. -/
def classes : ClassTable := .declareAll {} [
  { ClassDecl.plain "desk.Note" with
    properties := [{ name := "day", typeText := "java.util.Calendar" }] },
  { ClassDecl.plain "diary.Entry" with
    properties := [{ name := "day", typeText := "java.util.Date" }] }]

def hasDay : Method where
  name := "hasDay"
  parameters := [{ name := "day", ty := .named "java.util.Calendar" }]
  returnType := .primitive .boolean
  owner := .named "tools.Days"
  family := .presenceCheck
  isAbstract := false

def mapper : MapperDecl where
  ty := .named "diary.EntryMapper"
  methods := [{
    name := "toEntry"
    parameters := [{ name := "note", ty := .named "desk.Note" }]
    returnType := .named "diary.Entry"
    owner := .named "diary.EntryMapper" }]
  usedMappers := [{ ty := .named "tools.Days", methods := [hasDay] }]

/-- The presence check needs the mapper that provides it, and the day is mapped by a helper. -/
example : (mapper.generate classes {}).usedMappers = [.named "tools.Days"] ∧
    (mapper.generate classes {}).usedHelpers = ["calendarToDate"] := by
  decide +kernel

end Diary

end BeanMapper
