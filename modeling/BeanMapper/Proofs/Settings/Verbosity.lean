import BeanMapper.Proofs.Log.Levels
import BeanMapper.Settings.Basic

/-!
# Verbose logging

Verbose settings append a directive that logs the generator at debug level, unless the level is a
bare one. What the list gives a target of the generator may get less by that, or stay less than
debug (`verbose_raises_iff`, `not_always_raised`).
-/

namespace BeanMapper

open Log

/-! ## Bare levels and lists -/

namespace Logging

/-- The directive that logs the generator at a level. -/
def directiveAt (level : Level) : Directive := ⟨some target, level⟩

theorem written?_directivesAt (level : Level) :
    written? (directivesAt level) = some [⟨none, .warn⟩, directiveAt level] := by
  cases level <;> decide +kernel

theorem written?_debug :
    written? (target ++ "=" ++ Level.debug.name) = some [directiveAt .debug] := by
  decide +kernel

/-- With a bare level every target of the generator has that level. -/
theorem levelOf_directivesAt {name : String} (htarget : target.toList <+: name.toList)
    (level : Level) :
    ∃ filter, parseDirectives? (directivesAt level) = some filter ∧
      levelOf filter name = level := by
  refine ⟨addDirective (directiveAt level) (filterOf [⟨none, .warn⟩]), ?_, ?_⟩
  · rw [parseDirectives?_eq, written?_directivesAt]
    rfl
  · have hcovers : (directiveAt level).Covers name := by
      rintro start ⟨⟩
      exact htarget
    rw [levelOf_addDirective (sorted_filterOf _) hcovers, if_neg]
    · rfl
    · rintro ⟨e, he, -, hreach⟩
      rw [List.mem_singleton.1 he] at hreach
      cases hreach

end Logging

namespace Settings

variable {settings : Settings} {d : Directive} {quiet : List Directive} {target : String}

/-- A directive that names more of the target than the generator's own does. -/
def IsFiner (d : Directive) (target : String) : Prop :=
  ∃ start, d.target = some start ∧ start ≠ Logging.target ∧
    Logging.target.toList <+: start.toList ∧ start.toList <+: target.toList

theorem isFiner_iff (htarget : Logging.target.toList <+: target.toList) :
    IsFiner d target ↔
      d.Covers target ∧ (Logging.directiveAt .debug).reach < d.reach := by
  constructor
  · rintro ⟨start, hstart, hne, hown, hprefix⟩
    refine ⟨by simpa [Directive.Covers, hstart] using hprefix, ?_⟩
    have hsize := Directive.size_le_of_start hown
    have hsize' : Logging.target.utf8ByteSize ≠ start.utf8ByteSize := fun heq =>
      hne (Directive.eq_of_start hown heq).symm
    simp only [Directive.reach, Logging.directiveAt, hstart]
    omega
  · rintro ⟨hcovers, hreach⟩
    cases hstart : d.target with
    | none => simp [Directive.reach, hstart] at hreach
    | some start =>
      simp only [Directive.reach, Logging.directiveAt, hstart] at hreach
      have hprefix := hcovers start hstart
      -- two beginnings of one target: the longer one starts with the other
      rcases List.prefix_or_prefix_of_prefix htarget hprefix with hown | hshort
      · refine ⟨start, hstart, ?_, hown, hprefix⟩
        rintro rfl
        omega
      · have hsize := Directive.size_le_of_start hshort
        omega

/-- A list stays as it is for a target that a finer directive is about, and gives all other targets
of the generator the debug level. -/
theorem levelOf_verbose (hlist : settings.logging.bareLevel? = none)
    (hquiet : parseDirectives? settings.logging.directives = some quiet)
    (htarget : Logging.target.toList <+: target.toList) :
    ∃ loud, parseDirectives? { settings with verbose := true }.logDirectives = some loud ∧
      ((∃ d ∈ quiet, IsFiner d target) → levelOf loud target = levelOf quiet target) ∧
      ((¬∃ d ∈ quiet, IsFiner d target) → levelOf loud target = .debug) := by
  rw [parseDirectives?_eq, Option.map_eq_some_iff] at hquiet
  obtain ⟨written, hwritten, rfl⟩ := hquiet
  have hcovers : (Logging.directiveAt .debug).Covers target := by
    rintro start ⟨⟩
    exact htarget
  have hlevel := levelOf_addDirective (sorted_filterOf written) hcovers
  have hfurther : (∃ d ∈ filterOf written, IsFiner d target) ↔ ∃ e ∈ filterOf written,
      e.Covers target ∧ (Logging.directiveAt .debug).reach < e.reach := by
    simp only [isFiner_iff htarget]
  refine ⟨addDirective (Logging.directiveAt .debug) (filterOf written), ?_, ?_, ?_⟩
  · have hdirectives : { settings with verbose := true }.logDirectives =
        settings.logging.directives ++ "," ++ (Logging.target ++ "=" ++ Level.debug.name) := by
      simp [logDirectives, hlist, String.append_assoc]
    rw [hdirectives, parseDirectives?_eq, written?_append, hwritten, Logging.written?_debug]
    exact congrArg some (filterOf_append written _)
  · intro hfiner
    rw [hlevel, if_pos (hfurther.1 hfiner)]
  · intro hfiner
    rw [hlevel, if_neg (mt hfurther.2 hfiner)]
    rfl

/-! ## What verbose settings change -/

/-- For a target of the generator verbose settings give at least the debug level, and at least the
level that it has without them, exactly if the level is a bare one, or a finer directive decides for
the target and gives it that level already, or none does and the list gives it no more. -/
theorem verbose_raises_iff (settings : Settings) {target : String} {quiet : List Directive}
    (hquiet : parseDirectives? { settings with verbose := false }.logDirectives = some quiet)
    (htarget : Logging.target.toList <+: target.toList) :
    ∃ loud, parseDirectives? { settings with verbose := true }.logDirectives = some loud ∧
      ((.debug ≤ levelOf loud target ∧ levelOf quiet target ≤ levelOf loud target) ↔
        settings.logging.bareLevel?.isSome ∨
        ((∃ d ∈ quiet, IsFiner d target) ∧ .debug ≤ levelOf quiet target) ∨
        ((¬∃ d ∈ quiet, IsFiner d target) ∧ levelOf quiet target ≤ .debug)) := by
  change parseDirectives? settings.logging.directives = some quiet at hquiet
  cases hlevel : settings.logging.bareLevel? with
  | some level =>
    have hverbose : { settings with verbose := true }.logDirectives =
        Logging.directivesAt (if level = .trace then .trace else .debug) := by
      cases level <;> simp [logDirectives, Logging.directives, hlevel]
    obtain ⟨filter, hfilter, hgiven⟩ := Logging.levelOf_directivesAt htarget level
    obtain ⟨loud, hloud, hraised⟩ :=
      Logging.levelOf_directivesAt htarget (if level = .trace then .trace else .debug)
    rw [Logging.directives, hlevel] at hquiet
    obtain rfl : filter = quiet := Option.some.inj (hfilter.symm.trans hquiet)
    refine ⟨loud, hverbose ▸ hloud, iff_of_true ?_ (Or.inl rfl)⟩
    rw [hgiven, hraised]
    cases level <;> decide
  | none =>
    obtain ⟨loud, hloud, hkept, hraised⟩ := levelOf_verbose hlevel hquiet htarget
    refine ⟨loud, hloud, ?_⟩
    by_cases hfiner : ∃ d ∈ quiet, IsFiner d target
    · simp [hfiner, hkept hfiner, Level.le_iff]
    · simp [hfiner, hraised hfiner, Level.le_iff]

def leveled (level : String) : Settings := { logging := { level } }

/-- The resolver is logged in full, with verbose settings too. -/
theorem verbose_raises_iff_resolver :
    parseDirectives? { leveled "nova.mapgen.resolver=trace,info" with
      verbose := false }.logDirectives =
        some [⟨some "nova.mapgen.resolver", .trace⟩, ⟨none, .info⟩] ∧
    Logging.target.toList <+: "nova.mapgen.resolver.chains".toList ∧
    ∃ loud, parseDirectives? { leveled "nova.mapgen.resolver=trace,info" with
        verbose := true }.logDirectives = some loud ∧
      .debug ≤ levelOf loud "nova.mapgen.resolver.chains" ∧
      .trace ≤ levelOf loud "nova.mapgen.resolver.chains" := by
  have hquiet : parseDirectives? { leveled "nova.mapgen.resolver=trace,info" with
      verbose := false }.logDirectives =
        some [⟨some "nova.mapgen.resolver", .trace⟩, ⟨none, .info⟩] := by decide +kernel
  have htarget : Logging.target.toList <+: "nova.mapgen.resolver.chains".toList := by decide
  have hfiner : IsFiner ⟨some "nova.mapgen.resolver", .trace⟩ "nova.mapgen.resolver.chains" :=
    ⟨_, rfl, by decide, by decide, by decide⟩
  obtain ⟨loud, hloud, hiff⟩ := verbose_raises_iff _ hquiet htarget
  refine ⟨hquiet, htarget, loud, hloud, hiff.2 (Or.inr (Or.inl ⟨⟨_, ?_, hfiner⟩, ?_⟩))⟩
  · exact List.mem_cons_self
  · decide

/-- A generator that is logged in full is logged at debug level if the settings are verbose. -/
theorem not_always_raised : ¬∀ (settings : Settings) (target : String)
    (quiet loud : List Directive), Logging.target.toList <+: target.toList →
    parseDirectives? { settings with verbose := false }.logDirectives = some quiet →
    parseDirectives? { settings with verbose := true }.logDirectives = some loud →
    .debug ≤ levelOf loud target ∧ levelOf quiet target ≤ levelOf loud target := by
  intro h
  have hlowered := (h (leveled "nova.mapgen=trace") Logging.target
    [⟨some Logging.target, .trace⟩] [⟨some Logging.target, .debug⟩]
    (by decide) (by decide +kernel) (by decide +kernel)).2
  revert hlowered
  decide +kernel

end Settings

end BeanMapper
