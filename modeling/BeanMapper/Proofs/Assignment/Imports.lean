import BeanMapper.Assignment.Requirement
import BeanMapper.Proofs.Assignment.Steps
import Mathlib.Logic.Relation

/-!
# Imports of an assignment

The nodes of a tree are the assignments and the calls in it. A node holds those directly beneath it,
among them the method of a presence check, and contains whatever it leads to in this way. It imports
what it mentions itself and what the nodes that it holds import (`Node.mem_importList_iff`). So a
tree imports exactly what its nodes mention, and nothing that a node imports is lost further out,
whatever is wrapped around it (`Assignment.imports_grow_outwards`).
-/

namespace BeanMapper

/-! ## Nodes -/

/-- An assignment or a call somewhere in a tree. -/
inductive Node where
  | assignment (a : Assignment)
  | call (reference : Reference)

/-- The nodes directly beneath a node: what a wrapper is around and the default of a setter, what a
conversion or a call is applied to, a call itself, and the method of a presence check. -/
def Node.held : Node → List Node
  | assignment (.direct _ (.method reference)) => [.call reference]
  | assignment (.direct _ _) => []
  | assignment (.convert _ argument) => [.assignment argument]
  | assignment (.call reference) => [.call reference]
  | assignment (.nullCheck _ inner) => [.assignment inner]
  | assignment (.merge _ _ _ inner) => [.assignment inner]
  | assignment (.setter _ inner fallback) => .assignment inner :: fallback.toList.map .assignment
  | call (.mk _ argument) => argument.toList.map .assignment

/-- A node is directly beneath another. -/
def Node.Holds (outer inner : Node) : Prop := inner ∈ outer.held

/-- The second node is the first one or somewhere beneath it, at any depth. -/
def Node.Contains : Node → Node → Prop := Relation.ReflTransGen Node.Holds

mutual

/-- There is an end to what an assignment holds, by induction on the tree. -/
theorem Assignment.acc_node :
    ∀ a : Assignment, Acc (fun inner outer => Node.Holds outer inner) (.assignment a)
  | .direct _ .unchecked => ⟨_, nofun⟩
  | .direct _ (.accessor _) => ⟨_, nofun⟩
  | .direct _ (.method reference) => ⟨_, List.forall_mem_singleton.2 reference.acc_node⟩
  | .convert _ argument => ⟨_, List.forall_mem_singleton.2 argument.acc_node⟩
  | .call reference => ⟨_, List.forall_mem_singleton.2 reference.acc_node⟩
  | .nullCheck _ inner => ⟨_, List.forall_mem_singleton.2 inner.acc_node⟩
  | .merge _ _ _ inner => ⟨_, List.forall_mem_singleton.2 inner.acc_node⟩
  | .setter _ inner none => ⟨_, List.forall_mem_singleton.2 inner.acc_node⟩
  | .setter _ inner (some other) =>
    ⟨_, List.forall_mem_cons.2 ⟨inner.acc_node, List.forall_mem_singleton.2 other.acc_node⟩⟩

theorem Reference.acc_node :
    ∀ root : Reference, Acc (fun inner outer => Node.Holds outer inner) (.call root)
  | .mk _ none => ⟨_, nofun⟩
  | .mk _ (some argument) => ⟨_, List.forall_mem_singleton.2 argument.acc_node⟩

end

namespace Node

variable {node root inner : Node} {ty : Ty}

/-- Induction on nodes, with the hypothesis for all that a node holds. -/
@[elab_as_elim]
theorem byHeld {motive : Node → Prop}
    (step : ∀ node, (∀ inner, node.Holds inner → motive inner) → motive node) (node : Node) :
    motive node := by
  have hacc : Acc (fun inner outer => Holds outer inner) node := by
    cases node with
    | assignment a => exact a.acc_node
    | call root => exact root.acc_node
  induction hacc with
  | intro node _ ih => exact step node ih

/-! ## What a node mentions -/

/-- The classes that a node mentions itself, apart from the nodes beneath it. -/
def ownImports : Node → List Ty
  | assignment (.direct _ _) => []
  | assignment (.convert conversion _) => conversion.imports
  | assignment (.call _) => []
  | assignment (.nullCheck guard inner) => guard.importList inner
  | assignment (.merge guard _ property inner) =>
    guard.importList inner ++
      (if property = .setToDefault then
        (guard.target.implementation?.map Ty.imports).getD []
      else [])
  | assignment (.setter setting _ _) =>
    if setting.resetsToDefault then setting.target.instantiated.imports else []
  | call root => root.call.imports

/-- The classes that a node and the nodes beneath it mention. -/
def importList : Node → List Ty
  | assignment a => a.importList
  | call root => root.importList

def imports : Node → List Ty
  | assignment a => a.imports
  | call root => root.imports

theorem mem_imports_iff : ty ∈ node.imports ↔ ty ∈ node.importList := by
  cases node <;> exact mem_distinct

/-- A node imports what it mentions itself and what the nodes directly beneath it import. -/
theorem mem_importList_iff : ty ∈ node.importList ↔
    ty ∈ node.ownImports ∨ ∃ inner, node.Holds inner ∧ ty ∈ inner.importList := by
  rcases node with a | root
  · cases a with
    | direct value presence =>
      cases presence <;>
        simp [importList, Assignment.importList, Presence.importList, ownImports, Holds, held]
    | convert conversion argument =>
      simp [importList, Assignment.importList, ownImports, Holds, held]
    | call root => simp [importList, Assignment.importList, ownImports, Holds, held]
    | nullCheck guard inner =>
      simp [importList, Assignment.importList, ownImports, Holds, held, or_comm]
    | merge guard check property inner =>
      simp [importList, Assignment.importList, ownImports, Holds, held, or_comm]
    | setter setting inner fallback =>
      cases fallback <;>
        simp [importList, Assignment.importList, ownImports, Holds, held, or_comm, or_assoc]
  · obtain ⟨call, _ | argument⟩ := root <;>
      simp [importList, Reference.importList, ownImports, Holds, held, Reference.call]

/-- What a node imports is imported for every node around it. -/
theorem Contains.importList_subset (h : node.Contains inner) :
    inner.importList ⊆ node.importList := by
  induction h with
  | refl => exact List.Subset.refl _
  | tail _ hheld ih => exact fun ty hty => ih (mem_importList_iff.2 (Or.inr ⟨_, hheld, hty⟩))

/-- A node imports exactly what the nodes that it contains mention themselves. -/
theorem mem_importList_iff_contains (node : Node) :
    ty ∈ node.importList ↔ ∃ inner, node.Contains inner ∧ ty ∈ inner.ownImports := by
  constructor
  · induction node using byHeld with
    | step node ih =>
      intro hty
      rcases mem_importList_iff.1 hty with hown | ⟨held, hheld, hty⟩
      · exact ⟨node, .refl, hown⟩
      · obtain ⟨inner, hinner, hown⟩ := ih held hheld hty
        exact ⟨inner, .head hheld hinner, hown⟩
  · rintro ⟨inner, hinner, hown⟩
    exact hinner.importList_subset (mem_importList_iff.2 (Or.inl hown))

/-! ## Calls -/

def references : Node → List Reference
  | assignment a => a.references
  | call root => root.references

variable {called : Reference}

/-- The calls of a node are the node itself, if it is one, and those of the nodes beneath it. -/
theorem mem_references_iff : called ∈ node.references ↔
    node = .call called ∨ ∃ inner, node.Holds inner ∧ called ∈ inner.references := by
  rcases node with a | root
  · cases a with
    | direct value presence => cases presence <;> simp [references, Holds, held]
    | setter setting inner fallback => cases fallback <;> simp [references, Holds, held]
    | _ => simp [references, Holds, held]
  · obtain ⟨call, _ | argument⟩ := root <;> simp [references, Holds, held, eq_comm]

/-- The calls of a tree are those of its nodes that are calls. -/
theorem mem_references_iff_contains :
    called ∈ node.references ↔ node.Contains (.call called) := by
  constructor
  · induction node using byHeld with
    | step node ih =>
      intro hcalled
      rcases mem_references_iff.1 hcalled with rfl | ⟨inner, hheld, hinner⟩
      · exact .refl
      · exact .head hheld (ih inner hheld hinner)
  · intro h
    induction h using Relation.ReflTransGen.head_induction_on with
    | refl => exact mem_references_iff.2 (Or.inl rfl)
    | head hheld _ ih => exact mem_references_iff.2 (Or.inr ⟨_, hheld, ih⟩)

/-- What a call anywhere in a tree mentions is imported for the tree. -/
theorem mem_importList_of_call (node : Node) (h : called ∈ node.references)
    (hty : ty ∈ called.call.imports) : ty ∈ node.importList :=
  (mem_importList_iff_contains node).2 ⟨.call called, mem_references_iff_contains.1 h, hty⟩

end Node

/-! ## Trees -/

namespace Assignment

/-- What a wrapper is around is directly beneath it. -/
theorem holds_of_inner? {a inner : Assignment} (h : a.inner? = some inner) :
    Node.Holds (.assignment a) (.assignment inner) := by
  cases a <;> cases h <;> exact List.mem_cons_self

/-- **Imports only grow outwards.** What any node of an assignment imports is imported for the
whole, so no wrapper drops an import of what it is around; and the whole imports only what one of
its nodes mentions itself. -/
theorem imports_grow_outwards (a : Assignment) :
    (∀ inner, Node.Contains (.assignment a) inner → inner.imports ⊆ a.imports) ∧
    (∀ inner, a.inner? = some inner → inner.imports ⊆ a.imports) ∧
    ∀ ty, ty ∈ a.imports ↔
      ∃ inner, Node.Contains (.assignment a) inner ∧ ty ∈ inner.ownImports := by
  have hgrow : ∀ inner, Node.Contains (.assignment a) inner → inner.imports ⊆ a.imports := by
    intro inner h ty hty
    have hlist := h.importList_subset (Node.mem_imports_iff.1 hty)
    exact mem_distinct.2 hlist
  refine ⟨hgrow, fun inner h => ?_, fun ty => ?_⟩
  · exact hgrow (.assignment inner) (.single (holds_of_inner? h))
  · exact mem_distinct.trans (Node.mem_importList_iff_contains (.assignment a))

end Assignment

/-! ## A price with a default -/

namespace Prices

/-- A call of a method that a mapper provides, with the mapper as its import. -/
def callOf (name : String) (owner result : Ty) : Call where
  name := name
  provider := .usedMapper owner
  bindings := []
  typeBindings := []
  returnType := result
  thrownTypes := []
  imports := [owner]

def finder : Reference :=
  .apply (callOf "currencyOf" (.named "tools.Finder") (.named "shop.Currency"))
    (.direct (.ofParameter "order" (.named "shop.Order")) .unchecked)

/-- The amount of an order as a text, if the currency is known. -/
def amount : Assignment :=
  .convert { source := .named "java.math.BigDecimal", target := .string,
             expression := Conversion.call "tools.Texts.of", imports := [.named "tools.Texts"] }
    (.direct (.ofProperty "order" "amount" "order.getAmount()" (.named "java.math.BigDecimal"))
      (.method (.apply (callOf "isKnown" (.named "tools.Checks") (.primitive .boolean))
        (.call finder))))

def guarded : Assignment := .nullCheck { target := .string } amount

def price : Assignment :=
  .setter { target := .string, resetsToDefault := true }
    (.direct (.ofParameter "price" .string) .unchecked) (some guarded)

/-- The finder stands in the argument of a presence check beneath a conversion, beneath a guard, in
the default of a setter; what it imports is imported for the price. -/
theorem imports_grow_outwards_finder :
    (Node.Contains (.assignment price) (.call finder) ∧ finder.imports ⊆ price.imports) ∧
    (guarded.inner? = some amount ∧ amount.imports ⊆ guarded.imports) ∧
    Ty.named "tools.Finder" ∈ price.imports := by
  have hcontains : Node.Contains (.assignment price) (.call finder) :=
    Node.mem_references_iff_contains.1 (by
      simp [Node.references, price, guarded, amount, finder, Reference.apply])
  obtain ⟨hgrow, -, -⟩ := Assignment.imports_grow_outwards price
  have hfinder : finder.imports ⊆ price.imports := hgrow (.call finder) hcontains
  obtain ⟨-, hwrapper, -⟩ := Assignment.imports_grow_outwards guarded
  exact ⟨⟨hcontains, hfinder⟩, ⟨rfl, hwrapper amount rfl⟩, hfinder (by decide)⟩

end Prices

end BeanMapper
