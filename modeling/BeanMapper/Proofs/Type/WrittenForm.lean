import BeanMapper.Proofs.Type.Grammar

/-!
# Types and their written form

A type that is read from a text is `Settled`: each name in it is the full name of what it means, so
that nothing remains to be resolved (`resolveName_full`). The written form of such a type is a text
of the grammar that means it (`Settled.typeForm`), and so it is read back from there (`parse_text`)
and no two types that are read from texts are written alike. The blanks, the wildcards and the short
names of the text it was read from are gone by then.
-/

namespace BeanMapper

namespace ClassTable

open Text (IsBlanks isBlanks_nil isBlanks_space)

variable {table : ClassTable} {text tail : List Char} {ty : Ty} {name : String}

/-! ## Names -/

/-- No keyword of a primitive type has a dot in it. -/
theorem ofName?_of_dotted (h : '.' ∈ name.toList) : Primitive.ofName? name = none := by
  cases hp : Primitive.ofName? name with
  | none => rfl
  | some p =>
    have hname : p.name = name := by simpa using List.find?_some hp
    have hdotless : '.' ∉ p.name.toList := by cases p <;> decide
    rw [hname] at hdotless
    exact absurd h hdotless

theorem resolveName_of_dotted (h : '.' ∈ name.toList) : table.resolveName name = .named name := by
  have hvoid : name ≠ "void" := by rintro rfl; revert h; decide
  simp only [resolveName, ofName?_of_dotted h, hvoid, h, if_true, if_false]

/-- All that a name alone can mean. -/
theorem resolveName_cases (table : ClassTable) (name : String) :
    (∃ p : Primitive, name = p.name ∧ table.resolveName name = .primitive p) ∨
      (name = "void" ∧ table.resolveName name = .void) ∨
      table.resolveName name = .named ("java.lang." ++ name) ∨
      table.resolveName name = .named name ∨ table.resolveName name = .typeVar name := by
  unfold resolveName
  split
  · rename_i p hp
    have hname : p.name = name := by simpa using List.find?_some hp
    exact Or.inl ⟨p, hname.symm, rfl⟩
  · split
    · exact Or.inr (Or.inl ⟨‹_›, rfl⟩)
    · split
      · simp
      · split
        · simp
        · split <;> simp

theorem isName_lang (h : IsName name) : IsName ("java.lang." ++ name) := by
  obtain ⟨c, rest, hname, hc, hrest⟩ := h
  refine ⟨'j', "ava.lang.".toList ++ c :: rest, ?_, by decide, ?_⟩
  · rw [String.toList_append, hname]
    rfl
  · intro d hd
    rcases List.mem_append.1 hd with hd | hd
    · have hall : "ava.lang.".toList.all continuesName = true := by decide +kernel
      exact List.all_eq_true.1 hall d hd
    · rcases List.mem_cons.1 hd with rfl | hd
      · exact continuesName_of_startsName hc
      · exact hrest d hd

theorem isName_resolveName (h : IsName name) : IsName (table.resolveName name).qualifiedName := by
  rcases table.resolveName_cases name with ⟨p, hp, he⟩ | ⟨hv, he⟩ | he | he | he <;> rw [he]
  · rw [hp] at h; exact h
  · rw [hv] at h; exact h
  · exact isName_lang h
  · exact h
  · exact h

/-- The full name of what a name means has the same meaning. -/
theorem resolveName_full (table : ClassTable) (name : String) :
    table.resolveName (table.resolveName name).qualifiedName = table.resolveName name := by
  rcases table.resolveName_cases name with ⟨p, hp, he⟩ | ⟨hv, he⟩ | he | he | he <;> rw [he]
  · rw [hp] at he; exact he
  · rw [hv] at he; exact he
  · refine resolveName_of_dotted ?_
    rw [Ty.named, Ty.qualifiedName, String.toList_append]
    exact List.mem_append_left _ (by decide)
  · exact he
  · exact he

/-- What a name alone means is written by its full name. -/
theorem text_resolveName (table : ClassTable) (name : String) :
    (table.resolveName name).text = (table.resolveName name).qualifiedName := by
  rcases table.resolveName_cases name with ⟨p, -, he⟩ | ⟨-, he⟩ | he | he | he <;> rw [he] <;>
    simp [Ty.named, Ty.text, Ty.qualifiedName]

/-! ## What is read -/

/-- A type whose heads are what names mean, named in full where arguments follow. -/
inductive Settled (table : ClassTable) : Ty → Prop where
  | head (name : String) (h : IsName name) : Settled table (table.resolveName name)
  | generic (name : String) (first : Ty) (more : List Ty) (h : IsName name)
    (hfirst : Settled table first) (hmore : ∀ arg ∈ more, Settled table arg) :
    Settled table (.declared (table.resolveName name).qualifiedName (first :: more))
  | array (component : Ty) (h : Settled table component) : Settled table (.array component)

theorem settled_object (table : ClassTable) : table.Settled .object := by
  have hname : IsName Platform.object := isName_of_all rfl (by decide) (by decide +kernel)
  have hobject : table.resolveName Platform.object = .object := resolveName_of_dotted (by decide)
  rw [← hobject]
  exact .head _ hname

theorem BracketForm.settled {read : Ty} (h : BracketForm text ty read) (hty : table.Settled ty) :
    table.Settled read := by
  induction h with
  | none _ => exact hty
  | array _ _ _ ih => exact ih (.array _ hty)

mutual

/-- A type of the grammar is settled, by induction on its form. -/
theorem TypeForm.settled : ∀ {text ty}, TypeForm table text ty → table.Settled ty
  | _, _, .wildcard _ _ => settled_object table
  | _, _, .bounded _ _ _ _ _ h => h.settled
  | _, _, .simple _ hname h => h.settled (.head _ hname)
  | _, _, .generic _ hname _ hfirst hmore h =>
    h.settled (.generic _ _ _ hname hfirst.settled hmore.settled)

theorem ArgsForm.settled :
    ∀ {text args}, ArgsForm table text args → ∀ arg ∈ args, table.Settled arg
  | _, _, .close _, _, harg => nomatch harg
  | _, _, .more _ harg _, _, .head _ => harg.settled
  | _, _, .more _ _ hrest, arg, .tail _ hin => hrest.settled arg hin

end

theorem settled_of_parse {text : String} (h : table.parse text = .ok ty) : table.Settled ty :=
  (parse_eq_ok_iff.1 h).settled

/-! ## What is written -/

theorem TypeForm.blanks_append (h : TypeForm table text ty) {before : List Char}
    (hbefore : IsBlanks before) : TypeForm table (before ++ text) ty := by
  cases h with
  | wildcard hblanks hafter => simpa using TypeForm.wildcard (hbefore.append hblanks) hafter
  | bounded hblanks hafter hword hbound hends h =>
    simpa using TypeForm.bounded (hbefore.append hblanks) hafter hword hbound hends h
  | simple hblanks hname h => simpa using TypeForm.simple (hbefore.append hblanks) hname h
  | generic hblanks hname hafter hfirst hmore h =>
    simpa using TypeForm.generic (hbefore.append hblanks) hname hafter hfirst hmore h

/-- The arguments behind the first one, each written behind a comma and a blank. -/
theorem argsForm_textAfter {more : List Ty}
    (h : ∀ arg ∈ more, TypeForm table arg.text.toList arg) :
    ArgsForm table ((Ty.textAfter more).toList ++ ['>']) more := by
  induction more with
  | nil => exact .close isBlanks_nil
  | cons arg more ih =>
    have harg := (h arg List.mem_cons_self).blanks_append isBlanks_space
    have hmore := ih fun other ho => h other (List.mem_cons_of_mem _ ho)
    simpa [Ty.textAfter, String.toList_append] using ArgsForm.more isBlanks_nil harg hmore

/-- The written form of a settled type, with any brackets behind it, by induction on how the type
came about. -/
theorem Settled.typeForm_append (h : table.Settled ty) {brackets : List Char} {read : Ty}
    (hbrackets : BracketForm brackets ty read) :
    TypeForm table (ty.text.toList ++ brackets) read := by
  induction h generalizing brackets read with
  | head name h =>
    rw [← resolveName_full] at hbrackets
    rw [text_resolveName]
    exact .simple isBlanks_nil (isName_resolveName h) hbrackets
  | generic name first more h _ _ ihFirst ihMore =>
    have hfirst := ihFirst (.none isBlanks_nil)
    have hmore := argsForm_textAfter fun arg harg => by
      simpa using ihMore arg harg (.none isBlanks_nil)
    rw [← resolveName_full] at hbrackets
    simpa [Ty.text, String.toList_append] using
      TypeForm.generic isBlanks_nil (isName_resolveName h) isBlanks_nil hfirst hmore hbrackets
  | array component _ ih =>
    simpa [Ty.text, String.toList_append] using ih (.array isBlanks_nil isBlanks_nil hbrackets)

theorem Settled.typeForm (h : table.Settled ty) : TypeForm table ty.text.toList ty := by
  have hform := h.typeForm_append (.none isBlanks_nil)
  rwa [List.append_nil] at hform

theorem parse_of_settled (h : table.Settled ty) : table.parse ty.text = .ok ty :=
  parse_eq_ok_iff.2 h.typeForm

/-- A type that is read from a text is the one that is read from its written form, and no other type
that is read from a text is written in this way. -/
theorem parse_text {text : String} (h : table.parse text = .ok ty) :
    table.parse ty.text = .ok ty ∧
      ∀ other otherTy, table.parse other = .ok otherTy → otherTy.text = ty.text → otherTy = ty := by
  have hback := parse_of_settled (settled_of_parse h)
  refine ⟨hback, fun other otherTy ho heq => ?_⟩
  have hother := parse_of_settled (settled_of_parse ho)
  rw [heq, hback] at hother
  cases hother
  rfl

end ClassTable

/-! ## A shelf of items -/

namespace Shelf

/-- A text class of the platform and a class without a package. -/
def classes : ClassTable := .declareAll {} [.plain "java.lang.String", .plain "Item"]

/-- A text with blanks, wildcards, short names and a primitive type for a head. -/
def text : String := " java.util.Map\t< String , ? super int<T, Item, ?>[ ] > [] "

def ty : Ty :=
  .array (.declared "java.util.Map"
    [.named "java.lang.String", .array (.declared "int" [.typeVar "T", .named "Item", .object])])

/-- Its written form is another text for the same type. -/
theorem parse_text_shelf : classes.parse text = .ok ty ∧ ty.text ≠ text ∧
    classes.parse ty.text = .ok ty ∧
    ∀ other otherTy, classes.parse other = .ok otherTy → otherTy.text = ty.text → otherTy = ty := by
  have h : classes.parse text = .ok ty := by rfl
  have hne : ty.text ≠ text := by decide +kernel
  exact ⟨h, hne, ClassTable.parse_text h⟩

end Shelf

end BeanMapper
