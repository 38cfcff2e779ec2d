import BeanMapper.Proofs.Type.Grammar

/-!
# Errors of types and their completions

A text that is no type has an error at the character where its reader stopped, or at its end. What
the reader has passed by then is the beginning of a type: some text behind it makes it one
(`parse_error_completes`). The character itself need not be wrong behind that beginning, since a
bound is only read by its whole keyword: `? e` has its error at the `e`, and `? extends T` is a
type.
-/

namespace BeanMapper

namespace TypeSyntaxError

variable {consumed rest : List Char} {text input : String}

/-- The error that stands at a character, and its offset in bytes. -/
theorem ofRest_eq_unexpectedChar {c : Char} {offset : Nat} (htext : text.toList = consumed ++ rest)
    (h : ofRest text rest = unexpectedChar input c offset) :
    input = text ∧ (∃ after, text = String.ofList consumed ++ String.singleton c ++ after) ∧
      offset = (String.ofList consumed).utf8ByteSize := by
  have hsplit : text = String.ofList consumed ++ String.ofList rest := by
    rw [← String.ofList_append, ← htext, String.ofList_toList]
  cases rest with
  | nil => cases h
  | cons d rest =>
    have hcons : String.ofList (d :: rest) = String.singleton d ++ String.ofList rest := by
      rw [String.singleton_eq_ofList, ← String.ofList_append]
      rfl
    cases h
    refine ⟨rfl, ⟨String.ofList rest, ?_⟩, ?_⟩
    · rw [hsplit, hcons, String.append_assoc]
    · rw [hsplit, String.utf8ByteSize_append, Nat.add_sub_cancel]

theorem ofRest_eq_unexpectedEnd (htext : text.toList = consumed ++ rest)
    (h : ofRest text rest = unexpectedEnd input) :
    input = text ∧ text = String.ofList consumed := by
  cases rest with
  | nil =>
    cases h
    rw [List.append_nil] at htext
    exact ⟨rfl, by rw [← htext, String.ofList_toList]⟩
  | cons d rest => cases h

end TypeSyntaxError

namespace ClassTable

/-- Some text behind the text makes it a type. -/
def Completes (table : ClassTable) (text : String) : Prop :=
  ∃ suffix ty, table.parse (text ++ suffix) = .ok ty

/-- An error at a character stands at a boundary of characters within the text, at this very
character, and the text before it can be completed. An error at the end is one of a text that can
itself be completed. -/
theorem parse_error_completes (table : ClassTable) (text : String) :
    (∀ input c offset, table.parse text = .error (.unexpectedChar input c offset) →
      input = text ∧ ∃ before after, text = before ++ String.singleton c ++ after ∧
        offset = before.utf8ByteSize ∧ offset < text.utf8ByteSize ∧ table.Completes before) ∧
      ∀ input, table.parse text = .error (.unexpectedEnd input) →
        input = text ∧ table.Completes text := by
  have hcompletes : ∀ consumed more ty, TypeForm table (consumed ++ more) ty →
      table.Completes (String.ofList consumed) := by
    intro consumed more ty hform
    refine ⟨String.ofList more, ty, parse_eq_ok ?_⟩
    rwa [← String.ofList_append, String.toList_ofList]
  constructor
  · intro input c offset h
    obtain ⟨consumed, rest, more, ty, htext, herror, hform⟩ := (parse_explained table text).2 _ h
    obtain ⟨hinput, ⟨after, hbefore⟩, hoffset⟩ :=
      TypeSyntaxError.ofRest_eq_unexpectedChar htext herror.symm
    refine ⟨hinput, _, after, hbefore, hoffset, ?_, hcompletes consumed more ty hform⟩
    have hsize := congrArg String.utf8ByteSize hbefore
    have hchar := c.utf8Size_pos
    simp only [String.utf8ByteSize_append, String.utf8ByteSize_singleton] at hsize
    omega
  · intro input h
    obtain ⟨consumed, rest, more, ty, htext, herror, hform⟩ := (parse_explained table text).2 _ h
    obtain ⟨hinput, hconsumed⟩ := TypeSyntaxError.ofRest_eq_unexpectedEnd htext herror.symm
    rw [hconsumed]
    exact ⟨hinput.trans hconsumed, hcompletes consumed more ty hform⟩

end ClassTable

namespace Gallery

/-- A class whose name has characters of two bytes. -/
def classes : ClassTable := .declareAll {} [.plain "Größe"]

/-- An argument that is followed by a character of two bytes instead of its end. -/
def text : String := "Größe<Straße é>"

/-- An argument without its end. -/
def unfinished : String := "Größe<Straße "

theorem parse_error_completes_gallery :
    classes.parse text = .error (.unexpectedChar text 'é' 16) ∧
      (∃ before after, text = before ++ String.singleton 'é' ++ after ∧ 16 = before.utf8ByteSize ∧
        16 < text.utf8ByteSize ∧ classes.Completes before) ∧
      classes.parse unfinished = .error (.unexpectedEnd unfinished) ∧
      classes.Completes unfinished := by
  have hchar : classes.parse text = .error (.unexpectedChar text 'é' 16) := by rfl
  have hend : classes.parse unfinished = .error (.unexpectedEnd unfinished) := by rfl
  exact ⟨hchar, ((classes.parse_error_completes text).1 _ _ _ hchar).2, hend,
    ((classes.parse_error_completes unfinished).2 _ hend).2⟩

end Gallery

end BeanMapper
