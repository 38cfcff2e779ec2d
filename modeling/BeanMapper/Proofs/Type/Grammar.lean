import BeanMapper.Proofs.Text.Blanks
import BeanMapper.Type.Reader

/-!
# The grammar of types

Which texts are types, and what they mean: `TypeForm` has one constructor for each way to write a
type and allows blanks wherever a reader skips them. Each answer of a reader is explained by it
(`Explains`): what has been read has the form of its value, and where a reader stops, what it has
passed is the beginning of a text of that form. Conversely a form is read back whatever ends the
type behind it (`TypeForm.readType_eq`). So the texts that are read as types are those of the
grammar (`parse_eq_ok_iff`).
-/

namespace BeanMapper

open Text (IsBlanks)

namespace ClassTable

variable {table : ClassTable} {fuel : Nat} {text rest tail : List Char} {ty : Ty} {name : String}

/-! ## Names -/

/-- No name starts with a blank or goes on with one. -/
theorem continuesName_of_isBlank {c : Char} (h : Text.isBlank c = true) :
    continuesName c = false := by
  have hblanks : ∀ n ∈ Text.blanks, continuesName (Char.ofNat n) = false := by decide +kernel
  have hc := hblanks _ (Text.mem_blanks_of_isBlank h)
  rwa [Char.ofNat_toNat] at hc

theorem continuesName_of_startsName {c : Char} (h : startsName c = true) :
    continuesName c = true := by
  simp only [startsName, Bool.or_eq_true] at h
  rcases h with (h | h) | h <;> simp [continuesName, Text.isLetterOrNumber, h]

theorem isBlank_of_startsName {c : Char} (h : startsName c = true) : Text.isBlank c = false := by
  cases hb : Text.isBlank c with
  | false => rfl
  | true =>
    have hc := continuesName_of_isBlank hb
    rw [continuesName_of_startsName h] at hc
    cases hc

/-- The text is a name, as a reader takes it. -/
def IsName (name : String) : Prop :=
  ∃ c rest, name.toList = c :: rest ∧ startsName c = true ∧ ∀ d ∈ rest, continuesName d = true

theorem isName_of_all {c : Char} {rest : List Char} (hname : name.toList = c :: rest)
    (hc : startsName c = true) (hrest : rest.all continuesName = true) : IsName name :=
  ⟨c, rest, hname, hc, List.all_eq_true.1 hrest⟩

/-- A name ends before the text. -/
def EndsName (text : List Char) : Prop := ∀ c ∈ text.head?, continuesName c = false

/-- What can follow a head: nothing, a separator, the end of the arguments, or brackets. -/
def Follows : List Char → Prop
  | [] => True
  | c :: _ => c = ',' ∨ c = '>' ∨ c = '['

theorem endsName_nil : EndsName [] := by
  intro c hc
  cases hc

theorem EndsName.append (h : EndsName text) (ht : EndsName tail) : EndsName (text ++ tail) := by
  cases text with
  | nil => exact ht
  | cons c rest => exact h

theorem endsName_dropWhile (text : List Char) : EndsName (text.dropWhile continuesName) := by
  intro c hc
  have hfirst := List.head?_dropWhile_not continuesName text
  rwa [Option.mem_def.1 hc] at hfirst

theorem Follows.endsName (h : Follows text) : EndsName text := by
  cases text with
  | nil => exact endsName_nil
  | cons c rest =>
    rintro d ⟨⟩
    rcases h with rfl | rfl | rfl <;> decide

/-- A name ends before blanks. -/
theorem endsName_of_skipBlanks (h : EndsName (Text.skipBlanks text)) : EndsName text := by
  cases text with
  | nil => exact endsName_nil
  | cons c rest =>
    cases hblank : Text.isBlank c with
    | true =>
      rintro d ⟨⟩
      exact continuesName_of_isBlank hblank
    | false => rwa [Text.skipBlanks_cons hblank] at h

theorem endsName_of_isBlanks (h : IsBlanks text) : EndsName text := by
  intro c hc
  exact continuesName_of_isBlank (h c (List.mem_of_mem_head? hc))

/-- A name is read up to the first character that does not go on with it. -/
theorem readName_append (h : IsName name) (ht : EndsName tail) {before : List Char}
    (hbefore : IsBlanks before) :
    readName (before ++ (name.toList ++ tail)) = .ok (name, tail) := by
  obtain ⟨c, rest, hname, hc, hrest⟩ := h
  have hstop : tail.takeWhile continuesName = [] ∧ tail.dropWhile continuesName = tail := by
    cases tail with
    | nil => exact ⟨rfl, rfl⟩
    | cons d _ =>
      have hd : ¬continuesName d = true := by simp [ht d rfl]
      exact ⟨List.takeWhile_cons_of_neg hd, List.dropWhile_cons_of_neg hd⟩
  rw [readName, Text.skipBlanks_append hbefore, hname, List.cons_append,
    Text.skipBlanks_cons (isBlank_of_startsName hc)]
  simp only [hc, if_true, List.takeWhile_append_of_pos hrest, List.dropWhile_append_of_pos hrest,
    hstop.1, hstop.2, List.append_nil]
  rw [← hname, String.ofList_toList]

theorem skipBlanks_name_append (h : IsName name) (tail : List Char) :
    Text.skipBlanks (name.toList ++ tail) = name.toList ++ tail := by
  obtain ⟨c, rest, hname, hc, -⟩ := h
  rw [hname, List.cons_append, Text.skipBlanks_cons (isBlank_of_startsName hc)]

/-! ## Forms -/

/-- Pairs of brackets that make arrays of a type. -/
inductive BracketForm : List Char → Ty → Ty → Prop
  | none {before : List Char} {ty : Ty} (hbefore : IsBlanks before) : BracketForm before ty ty
  | array {before inside brackets : List Char} {ty read : Ty} (hbefore : IsBlanks before)
    (hinside : IsBlanks inside) (h : BracketForm brackets (.array ty) read) :
    BracketForm (before ++ '[' :: (inside ++ ']' :: brackets)) ty read

mutual

/-- A text and the type that is written so: a wildcard without a bound or with one, a name alone, or
a name with arguments. -/
inductive TypeForm (table : ClassTable) : List Char → Ty → Prop
  | wildcard {before after : List Char} (hbefore : IsBlanks before) (hafter : IsBlanks after) :
    TypeForm table (before ++ '?' :: after) .object
  | bounded {before after inner : List Char} {word : String} {ty : Ty} (hbefore : IsBlanks before)
    (hafter : IsBlanks after) (hword : IsName word) (hbound : startsBound word.toList = true)
    (hends : EndsName inner) (h : TypeForm table inner ty) :
    TypeForm table (before ++ '?' :: (after ++ (word.toList ++ inner))) ty
  | simple {before brackets : List Char} {name : String} {ty : Ty} (hbefore : IsBlanks before)
    (hname : IsName name) (h : BracketForm brackets (table.resolveName name) ty) :
    TypeForm table (before ++ (name.toList ++ brackets)) ty
  | generic {before after args others brackets : List Char} {name : String} {first ty : Ty}
    {more : List Ty} (hbefore : IsBlanks before) (hname : IsName name) (hafter : IsBlanks after)
    (hfirst : TypeForm table args first) (hmore : ArgsForm table others more)
    (h : BracketForm brackets
      (.declared (table.resolveName name).qualifiedName (first :: more)) ty) :
    TypeForm table
      (before ++ (name.toList ++ (after ++ '<' :: (args ++ (others ++ brackets))))) ty

/-- The arguments that follow the first one, and the closing bracket. -/
inductive ArgsForm (table : ClassTable) : List Char → List Ty → Prop
  | close {before : List Char} (hbefore : IsBlanks before) : ArgsForm table (before ++ ['>']) []
  | more {before arg others : List Char} {ty : Ty} {rest : List Ty} (hbefore : IsBlanks before)
    (harg : TypeForm table arg ty) (hrest : ArgsForm table others rest) :
    ArgsForm table (before ++ ',' :: (arg ++ others)) (ty :: rest)

end

/-! ## Forms are read -/

/-- A type ends before the text: behind blanks there is nothing, a separator or the end of the
arguments. -/
def EndsType (text : List Char) : Prop := ∀ c ∈ (Text.skipBlanks text).head?, c = ',' ∨ c = '>'

theorem endsType_nil : EndsType [] := by
  intro c hc
  cases hc

theorem EndsType.follows (h : EndsType tail) : Follows (Text.skipBlanks tail) := by
  cases hskip : Text.skipBlanks tail with
  | nil => trivial
  | cons c rest =>
    rcases h c (by rw [hskip]; rfl) with rfl | rfl
    · exact Or.inl rfl
    · exact Or.inr (Or.inl rfl)

theorem EndsType.ne {c : Char} (h : EndsType tail) (hcomma : c ≠ ',') (hclose : c ≠ '>') :
    ∀ after, Text.skipBlanks tail ≠ c :: after := by
  intro after hskip
  rcases h c (by rw [hskip]; rfl) with heq | heq
  · exact hcomma heq
  · exact hclose heq

theorem BracketForm.follows {read : Ty} (h : BracketForm text ty read) (htail : EndsType tail) :
    Follows (Text.skipBlanks (text ++ tail)) := by
  cases h with
  | none hbefore =>
    rw [Text.skipBlanks_append hbefore]
    exact htail.follows
  | array hbefore hinside h =>
    rw [List.append_assoc, Text.skipBlanks_append hbefore, List.cons_append,
      Text.skipBlanks_cons (by decide)]
    exact Or.inr (Or.inr rfl)

/-- Reading brackets starts with skipping blanks. -/
theorem readBrackets_skipBlanks (h : text.length ≤ fuel) :
    readBrackets fuel ty (Text.skipBlanks text) = readBrackets fuel ty text := by
  cases fuel with
  | zero =>
    cases List.length_eq_zero_iff.1 (Nat.le_zero.1 h)
    rfl
  | succ fuel =>
    rw [readBrackets, readBrackets, Text.skipBlanks_skipBlanks]

theorem BracketForm.readBrackets_eq {read : Ty} (h : BracketForm text ty read)
    (htail : EndsType tail) (hfuel : (text ++ tail).length ≤ fuel) :
    readBrackets fuel ty (text ++ tail) = .ok (read, Text.skipBlanks tail) := by
  induction h generalizing fuel with
  | none hbefore =>
    cases fuel with
    | zero =>
      have hnil := List.length_eq_zero_iff.1 (Nat.le_zero.1 hfuel)
      obtain ⟨rfl, rfl⟩ := List.append_eq_nil_iff.1 hnil
      rfl
    | succ fuel =>
      rw [readBrackets, Text.skipBlanks_append hbefore]
      split
      · rename_i hskip
        -- what ends a type does not open a bracket
        exact absurd hskip (htail.ne (by decide) (by decide) _)
      · rfl
  | array hbefore hinside h ih =>
    simp only [List.append_assoc, List.cons_append, List.length_append, List.length_cons] at hfuel ⊢
    cases fuel with
    | zero => omega
    | succ fuel =>
      rw [readBrackets, Text.skipBlanks_append hbefore, Text.skipBlanks_cons (by decide)]
      simp only [Text.skipBlanks_append hinside, Text.skipBlanks_cons (c := ']') (by decide)]
      exact ih (by rw [List.length_append]; omega)

theorem ArgsForm.endsType {args : List Ty} (h : ArgsForm table text args) (tail : List Char) :
    EndsType (text ++ tail) := by
  cases h with
  | close hbefore =>
    rw [EndsType, List.append_assoc, Text.skipBlanks_append hbefore, List.singleton_append,
      Text.skipBlanks_cons (by decide)]
    rintro c ⟨⟩
    exact Or.inr rfl
  | more hbefore harg hrest =>
    rw [EndsType, List.append_assoc, Text.skipBlanks_append hbefore, List.cons_append,
      Text.skipBlanks_cons (by decide)]
    rintro c ⟨⟩
    exact Or.inl rfl

/-- No bound starts where a type ends. -/
theorem EndsType.startsBound (h : EndsType tail) : startsBound (Text.skipBlanks tail) = false := by
  cases hskip : Text.skipBlanks tail with
  | nil => rfl
  | cons c rest =>
    rcases h c (by rw [hskip]; rfl) with rfl | rfl <;> rfl

theorem startsBound_append (h : startsBound text = true) (tail : List Char) :
    startsBound (text ++ tail) = true := by
  simp only [startsBound, Bool.or_eq_true, List.isPrefixOf_iff_prefix] at h ⊢
  exact h.imp (·.trans (List.prefix_append _ _)) (·.trans (List.prefix_append _ _))

/-- Reading a type starts with skipping blanks. -/
theorem readType_blanks {before : List Char} (h : IsBlanks before) :
    table.readType fuel (before ++ text) = .ok (ty, rest) ↔
      table.readType fuel text = .ok (ty, rest) := by
  cases fuel with
  | zero => exact ⟨fun h => (by cases h), fun h => (by cases h)⟩
  | succ fuel => rw [readType, readType, Text.skipBlanks_append h]

/-- A name does not start as a wildcard does. -/
theorem readType_name (h : IsName name) (ht : EndsName tail) :
    table.readType (fuel + 1) (name.toList ++ tail) =
      match Text.skipBlanks tail with
      | '<' :: rest => do
        let (first, rest) ← table.readType fuel rest
        let (more, rest) ← table.readArgs fuel rest
        readBrackets fuel (.declared (table.resolveName name).qualifiedName (first :: more)) rest
      | rest => readBrackets fuel (table.resolveName name) rest := by
  have hread := readName_append h ht Text.isBlanks_nil
  rw [List.nil_append] at hread
  rw [readType, skipBlanks_name_append h]
  obtain ⟨c, rest, hname, hc, -⟩ := h
  split
  · rename_i after hq
    rw [hname, List.cons_append] at hq
    cases hq
    exact absurd hc (by decide)
  · rw [hread]
    rfl

/-- Reading arguments starts with skipping blanks. -/
theorem readArgs_skipBlanks {args : List Ty} (h : table.readArgs fuel text = .ok (args, rest)) :
    table.readArgs fuel (Text.skipBlanks text) = .ok (args, rest) := by
  cases fuel with
  | zero => cases h
  | succ fuel => rwa [readArgs, Text.skipBlanks_skipBlanks, ← readArgs]

mutual

/-- A text of the grammar is read up to where the type ends, by induction on its form. -/
theorem TypeForm.readType_eq {text tail : List Char} {ty : Ty} {fuel : Nat}
    (h : TypeForm table text ty) (htail : EndsType tail) (hfuel : (text ++ tail).length < fuel) :
    table.readType fuel (text ++ tail) = .ok (ty, Text.skipBlanks tail) := by
  cases fuel with
  | zero => cases hfuel
  | succ fuel =>
  cases h with
  | @wildcard before after hbefore hafter =>
    rw [List.append_assoc, readType_blanks hbefore, readType, List.cons_append,
      Text.skipBlanks_cons (by decide)]
    simp only [Text.skipBlanks_append hafter, htail.startsBound, Bool.false_eq_true, if_false]
  | @bounded before after inner word _ hbefore hafter hword hbound hends h =>
    simp only [List.append_assoc, List.cons_append, List.length_append, List.length_cons] at hfuel ⊢
    -- the keyword is read as a name, and the bound behind it stands for the wildcard
    have hinner : EndsName (inner ++ tail) :=
      hends.append (endsName_of_skipBlanks htail.follows.endsName)
    have hread := readName_append hword hinner Text.isBlanks_nil
    have ih : table.readType fuel (inner ++ tail) = .ok (ty, Text.skipBlanks tail) :=
      h.readType_eq htail (by rw [List.length_append]; omega)
    rw [List.nil_append] at hread
    rw [readType_blanks hbefore, readType, Text.skipBlanks_cons (by decide)]
    simp only [Text.skipBlanks_append hafter, skipBlanks_name_append hword,
      startsBound_append hbound, if_true, hread, bind, Except.bind, ih]
  | @simple before brackets name _ hbefore hname h =>
    simp only [List.append_assoc, List.length_append] at hfuel ⊢
    have hfollows := h.follows htail
    -- of the name there is a character at least, so the fuel is enough for the brackets
    have hbrackets : (brackets ++ tail).length ≤ fuel := by
      obtain ⟨c, rest, hchars, -⟩ := hname
      rw [hchars, List.length_cons] at hfuel
      rw [List.length_append]
      omega
    rw [readType_blanks hbefore, readType_name hname (endsName_of_skipBlanks hfollows.endsName)]
    split
    · rename_i hskip
      rw [hskip] at hfollows
      rcases hfollows with hc | hc | hc <;> cases hc
    · rw [readBrackets_skipBlanks hbrackets]
      exact h.readBrackets_eq htail hbrackets
  | @generic before after args others brackets name first _ more hbefore hname hafter hfirst hmore
      h =>
    simp only [List.append_assoc, List.cons_append, List.length_append, List.length_cons] at hfuel ⊢
    -- behind the name the arguments open; the first is a type, the others have a reader of their
    -- own
    have hopen : Text.skipBlanks (after ++ '<' :: (args ++ (others ++ (brackets ++ tail)))) =
        '<' :: (args ++ (others ++ (brackets ++ tail))) := by
      rw [Text.skipBlanks_append hafter, Text.skipBlanks_cons (by decide)]
    have hends : EndsName (after ++ '<' :: (args ++ (others ++ (brackets ++ tail)))) := by
      refine endsName_of_skipBlanks ?_
      rw [hopen]
      rintro c ⟨⟩
      decide
    have ihfirst : table.readType fuel (args ++ (others ++ (brackets ++ tail))) =
        .ok (first, Text.skipBlanks (others ++ (brackets ++ tail))) :=
      hfirst.readType_eq (hmore.endsType _) (by simp only [List.length_append]; omega)
    have ihmore : table.readArgs fuel (others ++ (brackets ++ tail)) =
        .ok (more, brackets ++ tail) :=
      hmore.readArgs_eq (by simp only [List.length_append]; omega)
    rw [readType_blanks hbefore, readType_name hname hends, hopen]
    simp only [ihfirst, readArgs_skipBlanks ihmore, bind, Except.bind]
    exact h.readBrackets_eq htail (by rw [List.length_append]; omega)

theorem ArgsForm.readArgs_eq {text tail : List Char} {args : List Ty} {fuel : Nat}
    (h : ArgsForm table text args) (hfuel : (text ++ tail).length < fuel) :
    table.readArgs fuel (text ++ tail) = .ok (args, tail) := by
  cases fuel with
  | zero => cases hfuel
  | succ fuel =>
  cases h with
  | close hbefore =>
    have hclose : Text.skipBlanks ('>' :: tail) = '>' :: tail := Text.skipBlanks_cons (by decide) _
    rw [List.append_assoc, List.singleton_append, readArgs, Text.skipBlanks_append hbefore]
    simp only [hclose]
  | @more before arg others ty rest hbefore harg hrest =>
    simp only [List.append_assoc, List.cons_append, List.length_append, List.length_cons] at hfuel ⊢
    have iharg : table.readType fuel (arg ++ (others ++ tail)) =
        .ok (ty, Text.skipBlanks (others ++ tail)) :=
      harg.readType_eq (hrest.endsType tail) (by simp only [List.length_append]; omega)
    have ihrest : table.readArgs fuel (others ++ tail) = .ok (rest, tail) :=
      hrest.readArgs_eq (by simp only [List.length_append]; omega)
    rw [readArgs, Text.skipBlanks_append hbefore, Text.skipBlanks_cons (by decide)]
    simp only [iharg, readArgs_skipBlanks ihrest, bind, Except.bind]

end

/-! ## Answers of readers -/

/-- What the answer of a reader says about the text: what has been read has the form of its value,
or what has been passed can be completed, behind a blank, to such a form. -/
inductive Explains {α : Type} (form : List Char → α → Prop) (text : List Char) :
    Except (List Char) (α × List Char) → Prop
  | read (consumed rest : List Char) {value : α} (htext : text = consumed ++ rest)
    (h : form consumed value) : Explains form text (.ok (value, rest))
  | stopped (consumed rest more : List Char) (value : α) (htext : text = consumed ++ rest)
    (h : form (consumed ++ ' ' :: more) value) : Explains form text (.error rest)

section

variable {α β : Type} {form : List Char → α → Prop} {inner : List Char}
  {answer : Except (List Char) (α × List Char)}

/-- An answer that is explained behind the beginning of a text is explained by the whole. -/
theorem Explains.behind {other : List Char → α → Prop} (h : Explains form inner answer)
    (before : List Char) (htext : text = before ++ inner)
    (hform : ∀ consumed value, (∀ c ∈ consumed.head?, c ∈ inner.head? ∨ c = ' ') →
      form consumed value → other (before ++ consumed) value) : Explains other text answer := by
  cases h with
  | @read consumed rest value hinner h =>
    refine .read (before ++ consumed) rest ?_ (hform consumed value ?_ h)
    · rw [htext, hinner, List.append_assoc]
    · intro c hc
      -- what has been read starts as the text does
      rw [hinner]
      cases consumed with
      | nil => cases hc
      | cons d _ => exact Or.inl hc
  | @stopped consumed rest more value hinner h =>
    have hwhole := hform _ value (fun c hc => ?_) h
    · rw [← List.append_assoc] at hwhole
      refine .stopped (before ++ consumed) rest more value ?_ hwhole
      rw [htext, hinner, List.append_assoc]
    · cases consumed with
      | nil =>
        cases hc
        exact Or.inr rfl
      | cons d _ =>
        rw [hinner]
        exact Or.inl hc

/-- A reader that goes on behind what another has read. -/
theorem Explains.bind {other : List Char → β → Prop}
    {next : α × List Char → Except (List Char) (β × List Char)} (h : Explains form inner answer)
    (before : List Char) (htext : text = before ++ inner)
    (hstopped : ∀ passed value, form passed value →
      ∃ more read, other (before ++ passed ++ more) read)
    (hread : ∀ consumed rest value, inner = consumed ++ rest → form consumed value →
      Explains other text (next (value, rest))) : Explains other text (answer >>= next) := by
  cases h with
  | @read consumed rest value hinner h => exact hread consumed rest value hinner h
  | @stopped consumed rest more value hinner h =>
    obtain ⟨others, read, hother⟩ := hstopped _ value h
    refine .stopped (before ++ consumed) rest (more ++ others) read ?_ ?_
    · rw [htext, hinner, List.append_assoc]
    · simpa using hother

end

/-- By induction on the fuel, one pair of brackets after another. -/
theorem readBrackets_explained (h : text.length ≤ fuel) :
    Explains (fun consumed read => BracketForm consumed ty read) text
      (readBrackets fuel ty text) := by
  induction fuel generalizing text ty with
  | zero =>
    cases List.length_eq_zero_iff.1 (Nat.le_zero.1 h)
    exact .read [] [] rfl (.none Text.isBlanks_nil)
  | succ fuel ih =>
    obtain ⟨before, hbefore, htext⟩ := Text.exists_blanks text
    rw [readBrackets]
    split
    · rename_i inside hopen
      obtain ⟨between, hbetween, hinside⟩ := Text.exists_blanks inside
      rw [hopen] at htext
      split
      · rename_i brackets hclose
        rw [hclose] at hinside
        have hlength : brackets.length ≤ fuel := by
          rw [htext, hinside] at h
          simp only [List.length_append, List.length_cons] at h
          omega
        refine (ih hlength).behind (before ++ '[' :: (between ++ [']'])) ?_ ?_
        · rw [htext, hinside]
          simp
        · intro consumed value _ hform
          simpa using BracketForm.array hbefore hbetween hform
      -- an open bracket can be completed by closing it
      · refine .stopped (before ++ '[' :: between) _ [']'] (.array ty) ?_ ?_
        · rw [htext, List.append_assoc, List.cons_append, ← hinside]
        · have hpair : BracketForm [] (.array ty) (.array ty) := .none Text.isBlanks_nil
          simpa using BracketForm.array hbefore (hbetween.append Text.isBlanks_space) hpair
    · exact .read before _ htext (.none hbefore)

/-- A name is read behind blanks, or the reader stops there. -/
theorem readName_cases (text : List Char) :
    ∃ before, IsBlanks before ∧
      ((∃ name after, text = before ++ (name.toList ++ after) ∧ IsName name ∧ EndsName after ∧
          readName text = .ok (name, after)) ∨
        ∃ rest, text = before ++ rest ∧ readName text = .error rest) := by
  obtain ⟨before, hbefore, htext⟩ := Text.exists_blanks text
  refine ⟨before, hbefore, ?_⟩
  rw [readName]
  split
  · rename_i hskip
    rw [hskip] at htext
    exact Or.inr ⟨[], htext, rfl⟩
  · rename_i c rest hskip
    rw [hskip] at htext
    split
    · rename_i hc
      refine Or.inl ⟨_, _, ?_, ⟨c, _, String.toList_ofList, hc, ?_⟩, ?_, rfl⟩
      · rw [String.toList_ofList, List.cons_append, List.takeWhile_append_dropWhile]
        exact htext
      · exact fun d hd => List.all_eq_true.1 List.all_takeWhile d hd
      · exact endsName_dropWhile rest
    · exact Or.inr ⟨c :: rest, htext, rfl⟩

/-- Where a bound starts, a word that starts with its keyword is read. -/
theorem exists_word_of_startsBound (h : startsBound text = true) :
    ∃ word inner, text = word.toList ++ inner ∧ IsName word ∧ startsBound word.toList = true ∧
      EndsName inner := by
  have hkeyword : ∃ keyword : String, IsName keyword ∧ startsBound keyword.toList = true ∧
      keyword.toList <+: text := by
    simp only [startsBound, Bool.or_eq_true, List.isPrefixOf_iff_prefix] at h
    have hextends : IsName "extends" := isName_of_all rfl (by decide) (by decide +kernel)
    have hsuper : IsName "super" := isName_of_all rfl (by decide) (by decide +kernel)
    rcases h with h | h
    · exact ⟨"extends", hextends, by decide, h⟩
    · exact ⟨"super", hsuper, by decide, h⟩
  obtain ⟨keyword, ⟨c, rest, hchars, hc, hrest⟩, hbound, after, rfl⟩ := hkeyword
  refine ⟨String.ofList (keyword.toList ++ after.takeWhile continuesName),
    after.dropWhile continuesName, ?_, ⟨c, rest ++ after.takeWhile continuesName, ?_, hc, ?_⟩, ?_,
    endsName_dropWhile after⟩
  · rw [String.toList_ofList, List.append_assoc, List.takeWhile_append_dropWhile]
  · rw [String.toList_ofList, hchars, List.cons_append]
  · intro d hd
    rcases List.mem_append.1 hd with hd | hd
    · exact hrest d hd
    · exact List.all_eq_true.1 List.all_takeWhile d hd
  · rw [String.toList_ofList]
    exact startsBound_append hbound _

/-- Reading a name starts with skipping blanks. -/
theorem readName_skipBlanks (text : List Char) :
    readName (Text.skipBlanks text) = readName text := by
  rw [readName, Text.skipBlanks_skipBlanks, ← readName]

theorem TypeForm.alone (hname : IsName name) {before : List Char} (hbefore : IsBlanks before) :
    TypeForm table (before ++ name.toList) (table.resolveName name) := by
  have hnone : BracketForm [] (table.resolveName name) (table.resolveName name) :=
    .none Text.isBlanks_nil
  simpa using TypeForm.simple hbefore hname hnone

section

variable (ihType : ∀ text : List Char, text.length < fuel →
    Explains (TypeForm table) text (table.readType fuel text))
  (ihArgs : ∀ text : List Char, text.length < fuel →
    Explains (ArgsForm table) text (table.readArgs fuel text))

include ihType

/-- A wildcard and its bound, if there is any. -/
theorem wildcard_explained {before rest : List Char} (hbefore : IsBlanks before)
    (hfuel : rest.length < fuel) :
    Explains (TypeForm table) (before ++ '?' :: rest)
      (if startsBound (Text.skipBlanks rest) then do
        let (_, rest) ← readName (Text.skipBlanks rest)
        table.readType fuel rest
      else .ok (.object, Text.skipBlanks rest)) := by
  obtain ⟨after, hafter, hrest⟩ := Text.exists_blanks rest
  split
  · rename_i hbound
    obtain ⟨word, inner, hword, hname, hstarts, hends⟩ := exists_word_of_startsBound hbound
    have hread := readName_append hname hends Text.isBlanks_nil
    rw [List.nil_append] at hread
    rw [hword] at hrest
    have hinner : inner.length < fuel := by
      rw [hrest] at hfuel
      simp only [List.length_append] at hfuel
      omega
    simp only [hword, hread, bind, Except.bind]
    refine (ihType inner hinner).behind (before ++ '?' :: (after ++ word.toList)) ?_ ?_
    · rw [hrest]
      simp
    · intro consumed value hhead hform
      -- behind the keyword there is a blank or what has ended it, so it is read as a whole
      have hconsumed : EndsName consumed := by
        intro c hc
        rcases hhead c hc with hc | rfl
        · exact hends c hc
        · decide
      simpa using TypeForm.bounded hbefore hafter hname hstarts hconsumed hform
  · refine .read (before ++ '?' :: after) _ ?_ (.wildcard hbefore hafter)
    rw [List.append_assoc, List.cons_append, ← hrest]

include ihArgs

/-- A head with its arguments and the brackets behind them. -/
theorem generic_explained {before after args : List Char} (hbefore : IsBlanks before)
    (hname : IsName name) (hafter : IsBlanks after) (hfuel : args.length < fuel) :
    Explains (TypeForm table) (before ++ (name.toList ++ (after ++ '<' :: args))) (do
      let (first, rest) ← table.readType fuel args
      let (more, rest) ← table.readArgs fuel rest
      readBrackets fuel (.declared (table.resolveName name).qualifiedName (first :: more))
        rest) := by
  refine (ihType args hfuel).bind (before ++ (name.toList ++ (after ++ ['<']))) (by simp) ?_ ?_
  · intro passed first hfirst
    have hform := TypeForm.generic hbefore hname hafter hfirst (.close Text.isBlanks_nil)
      (.none Text.isBlanks_nil)
    exact ⟨['>'], _, by simpa using hform⟩
  intro consumed rest first hargs hfirst
  have hrest : rest.length < fuel := by
    rw [hargs, List.length_append] at hfuel
    omega
  refine (ihArgs rest hrest).bind (before ++ (name.toList ++ (after ++ '<' :: consumed)))
    (by simp [hargs]) ?_ ?_
  · intro passed more hmore
    have hform := TypeForm.generic hbefore hname hafter hfirst hmore (.none Text.isBlanks_nil)
    exact ⟨[], _, by simpa using hform⟩
  intro others brackets more hothers hmore
  have hbrackets : brackets.length ≤ fuel := by
    rw [hothers, List.length_append] at hrest
    omega
  refine (readBrackets_explained hbrackets).behind
    (before ++ (name.toList ++ (after ++ '<' :: (consumed ++ others)))) ?_ ?_
  · simp [hargs, hothers]
  intro read ty _ hread
  simpa using TypeForm.generic hbefore hname hafter hfirst hmore hread

theorem readType_explained (hfuel : text.length < fuel + 1) :
    Explains (TypeForm table) text (table.readType (fuel + 1) text) := by
  rw [readType]
  split
  · rename_i rest hopen
    obtain ⟨before, hbefore, htext⟩ := Text.exists_blanks text
    rw [hopen] at htext
    rw [htext, List.length_append, List.length_cons] at hfuel
    rw [htext]
    exact wildcard_explained ihType hbefore (by omega)
  · rw [readName_skipBlanks]
    obtain ⟨before, hbefore, ⟨name, after, htext, hname, hends, hread⟩ | ⟨rest, htext, hread⟩⟩ :=
      readName_cases text
    · obtain ⟨between, hbetween, hafter⟩ := Text.exists_blanks after
      simp only [hread, bind, Except.bind]
      split
      · rename_i args hopen
        rw [hopen] at hafter
        rw [hafter] at htext
        rw [htext] at hfuel ⊢
        simp only [List.length_append, List.length_cons] at hfuel
        exact generic_explained ihType ihArgs hbefore hname hbetween (by omega)
      -- a name without arguments may have brackets behind it
      · have hbrackets : after.length ≤ fuel := by
          rw [htext] at hfuel
          obtain ⟨c, rest, hchars, -⟩ := hname
          simp only [hchars, List.length_append, List.length_cons] at hfuel
          omega
        rw [readBrackets_skipBlanks hbrackets]
        refine (readBrackets_explained hbrackets).behind (before ++ name.toList) ?_ ?_
        · rw [htext, List.append_assoc]
        intro consumed value _ hform
        simpa using TypeForm.simple hbefore hname hform
    -- where a name is missing, any name completes the text
    · have hvariable : IsName "T" := isName_of_all rfl (by decide) rfl
      rw [hread]
      refine .stopped before rest ['T'] (table.resolveName "T") htext ?_
      simpa using TypeForm.alone hvariable (hbefore.append Text.isBlanks_space)

theorem readArgs_explained (hfuel : text.length < fuel + 1) :
    Explains (ArgsForm table) text (table.readArgs (fuel + 1) text) := by
  obtain ⟨before, hbefore, htext⟩ := Text.exists_blanks text
  rw [readArgs]
  split
  · rename_i arg hcomma
    rw [hcomma] at htext
    have hargFuel : arg.length < fuel := by
      rw [htext, List.length_append, List.length_cons] at hfuel
      omega
    refine (ihType arg hargFuel).bind (before ++ [',']) (by simp [htext]) ?_ ?_
    · intro passed ty harg
      have hform := ArgsForm.more hbefore harg (.close Text.isBlanks_nil)
      exact ⟨['>'], _, by simpa using hform⟩
    intro consumed rest ty harg hform
    have hrestFuel : rest.length < fuel := by
      rw [harg, List.length_append] at hargFuel
      omega
    refine (ihArgs rest hrestFuel).bind (before ++ ',' :: consumed) (by simp [htext, harg]) ?_ ?_
    · intro passed more hmore
      exact ⟨[], _, by simpa using ArgsForm.more hbefore hform hmore⟩
    intro others after more hothers hmore
    refine .read (before ++ ',' :: (consumed ++ others)) after (by simp [htext, harg, hothers]) ?_
    exact .more hbefore hform hmore
  · rename_i rest hclose
    rw [hclose] at htext
    exact .read (before ++ ['>']) rest (by simp [htext]) (.close hbefore)
  · refine .stopped before _ ['>'] [] htext ?_
    simpa using ArgsForm.close (hbefore.append Text.isBlanks_space)

end

/-- By induction on the fuel of both readers. -/
theorem read_explained (table : ClassTable) (fuel : Nat) :
    (∀ text, text.length < fuel → Explains (TypeForm table) text (table.readType fuel text)) ∧
      ∀ text, text.length < fuel → Explains (ArgsForm table) text (table.readArgs fuel text) := by
  induction fuel with
  | zero => exact ⟨fun _ h => (by cases h), fun _ h => (by cases h)⟩
  | succ fuel ih =>
    obtain ⟨ihType, ihArgs⟩ := ih
    exact ⟨fun _ => readType_explained ihType ihArgs, fun _ => readArgs_explained ihType ihArgs⟩

/-! ## Texts -/

/-- Blanks behind a type are part of its form. -/
theorem BracketForm.append_blanks {read : Ty} (h : BracketForm text ty read)
    (htail : IsBlanks tail) : BracketForm (text ++ tail) ty read := by
  induction h with
  | none hbefore => exact .none (hbefore.append htail)
  | array hbefore hinside _ ih => simpa using BracketForm.array hbefore hinside ih

theorem TypeForm.append_blanks (htail : IsBlanks tail) :
    ∀ {text ty}, TypeForm table text ty → TypeForm table (text ++ tail) ty
  | _, _, .wildcard hbefore hafter => by
    simpa using TypeForm.wildcard hbefore (hafter.append htail)
  | _, _, .bounded hbefore hafter hword hbound hends h => by
    simpa using TypeForm.bounded hbefore hafter hword hbound
      (hends.append (endsName_of_isBlanks htail)) (h.append_blanks htail)
  | _, _, .simple hbefore hname h => by
    simpa using TypeForm.simple hbefore hname (h.append_blanks htail)
  | _, _, .generic hbefore hname hafter hfirst hmore h => by
    simpa using TypeForm.generic hbefore hname hafter hfirst hmore (h.append_blanks htail)

theorem parse_eq_ok {text : String} (h : TypeForm table text.toList ty) :
    table.parse text = .ok ty := by
  have hread : table.readType (text.toList.length + 1) (text.toList ++ []) = .ok (ty, []) :=
    h.readType_eq endsType_nil (by simp)
  rw [List.append_nil] at hread
  simp only [parse, hread]
  rfl

/-- What is read of a text has the form of the type, and the error of a text that is no type is that
of the rest behind the beginning of such a form. -/
theorem parse_explained (table : ClassTable) (text : String) :
    (∀ ty, table.parse text = .ok ty → TypeForm table text.toList ty) ∧
      ∀ error, table.parse text = .error error → ∃ consumed rest more ty,
        text.toList = consumed ++ rest ∧ error = .ofRest text rest ∧
          TypeForm table (consumed ++ more) ty := by
  have hexplained := (read_explained table (text.toList.length + 1)).1 text.toList (by simp)
  rw [parse]
  generalize table.readType (text.toList.length + 1) text.toList = answer at hexplained ⊢
  cases hexplained with
  | @read consumed rest ty htext h =>
    obtain ⟨blanks, hblanks, hrest⟩ := Text.exists_blanks rest
    simp only
    split
    · rename_i hend
      rw [hend, List.append_nil] at hrest
      refine ⟨?_, by simp⟩
      rintro _ ⟨⟩
      rw [htext, hrest]
      exact h.append_blanks hblanks
    · refine ⟨by simp, ?_⟩
      rintro _ ⟨⟩
      refine ⟨consumed ++ blanks, _, [], ty, ?_, rfl, ?_⟩
      · rw [htext, List.append_assoc, ← hrest]
      · rw [List.append_nil]
        exact h.append_blanks hblanks
  | @stopped consumed rest more ty htext h =>
    refine ⟨by simp, ?_⟩
    rintro _ ⟨⟩
    exact ⟨consumed, rest, ' ' :: more, ty, htext, rfl, h⟩

/-- The texts that are read as a type are those that have its form. -/
theorem parse_eq_ok_iff {text : String} :
    table.parse text = .ok ty ↔ TypeForm table text.toList ty :=
  ⟨(parse_explained table text).1 ty, parse_eq_ok⟩

end ClassTable

end BeanMapper
