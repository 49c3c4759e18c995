import Entitlement.Proofs.Engine.Authorize
import Entitlement.Proofs.Spelling

/-!
# Letter case of role names

Texts that are read as the same name are the same to every graph and in every decision.  A text and
its upper case always are; a text and its lower case are unless the text holds a one-way capital,
whose lower case belongs to another capital.
-/

namespace Entitlement
namespace Graph

/-- Two texts that no query, edit or check of any graph tells apart. -/
structure Indistinct (first second : Option String) : Prop where
  parse_eq : Name.parse first = Name.parse second
  ascendants_eq : forall graph : Graph, graph.ascendants first = graph.ascendants second
  descendants_eq : forall graph : Graph, graph.descendants first = graph.descendants second
  parents_eq : forall graph : Graph, graph.parents first = graph.parents second
  children_eq : forall graph : Graph, graph.children first = graph.children second
  childCount_eq : forall graph : Graph, graph.childCount first = graph.childCount second
  hasVertex_eq : forall graph : Graph, graph.hasVertex first = graph.hasVertex second
  joins_eq : forall (graph : Graph) (other : Option String),
    graph.joins first other = graph.joins second other ∧
      graph.joins other first = graph.joins other second
  addVertex_eq : addVertex first = addVertex second
  addEdge_eq : forall other : Option String,
    addEdgeBetween first other = addEdgeBetween second other ∧
      addEdgeBetween other first = addEdgeBetween other second
  dropEdge_eq : forall other : Option String,
    dropEdgeBetween first other = dropEdgeBetween second other ∧
      dropEdgeBetween other first = dropEdgeBetween other second
  check_eq : forall (graph : Graph) (other : Option String) (mustExist : Bool),
    graph.check first other mustExist = graph.check second other mustExist ∧
      graph.check other first mustExist = graph.check other second mustExist
  validate_eq : forall (graph : Graph) (other : Option String) (mustExist : Bool),
    graph.validate first other mustExist = graph.validate second other mustExist ∧
      graph.validate other first mustExist = graph.validate other second mustExist

section Congruence

variable {first second : Option String}

theorem find?_congr (h : Name.parse first = Name.parse second) (graph : Graph) :
    graph.find? first = graph.find? second := by
  unfold find?
  rw [h]

theorem relationship_congr (h : Name.parse first = Name.parse second) (other : Option String) :
    Relationship.parse first other = Relationship.parse second other ∧
      Relationship.parse other first = Relationship.parse other second := by
  unfold Relationship.parse
  rw [h]
  exact ⟨rfl, rfl⟩

theorem check_congr (h : Name.parse first = Name.parse second) (graph : Graph)
    (other : Option String) (mustExist : Bool) :
    graph.check first other mustExist = graph.check second other mustExist ∧
      graph.check other first mustExist = graph.check other second mustExist := by
  rcases relationship_congr h other with ⟨hchild, hparent⟩
  unfold check
  rw [hchild, hparent]
  exact ⟨rfl, rfl⟩

theorem indistinct_of_parse_eq (h : Name.parse first = Name.parse second) :
    Indistinct first second where
  parse_eq := h
  ascendants_eq := fun graph => by rw [ascendants, ascendants, find?_congr h]
  descendants_eq := fun graph => by rw [descendants, descendants, find?_congr h]
  parents_eq := fun graph => by rw [parents, parents, find?_congr h]
  children_eq := fun graph => by rw [children, children, find?_congr h]
  childCount_eq := fun graph => by rw [childCount, childCount, find?_congr h]
  hasVertex_eq := fun graph => by rw [hasVertex, hasVertex, find?_congr h]
  joins_eq := by
    intro graph other
    unfold joins
    rw [find?_congr h]
    exact ⟨rfl, rfl⟩
  addVertex_eq := by rw [addVertex, addVertex, h]
  addEdge_eq := by
    intro other
    rcases relationship_congr h other with ⟨hchild, hparent⟩
    unfold addEdgeBetween
    rw [hchild, hparent]
    exact ⟨rfl, rfl⟩
  dropEdge_eq := by
    intro other
    rcases relationship_congr h other with ⟨hchild, hparent⟩
    unfold dropEdgeBetween
    rw [hchild, hparent]
    exact ⟨rfl, rfl⟩
  check_eq := check_congr h
  validate_eq := by
    intro graph other mustExist
    rcases check_congr h graph other mustExist with ⟨hchild, hparent⟩
    unfold validate
    rw [hchild, hparent]
    exact ⟨rfl, rfl⟩

end Congruence
end Graph

namespace Engine

variable {σ τ : Type} {engine : Engine σ τ} {world : World σ τ} {sentinel held granted : String}

/-- Whoever has activated one role has what is granted to the other one. -/
structure Matches (engine : Engine σ τ) (world : World σ τ) (held granted : String) : Prop where
  authorized : forall session permission, some held ∈ session.activated permission.admin ->
    some granted ∈ permission.roles ->
      ((engine.isAuthorized session permission).run world).result = .ok true ∨
        exists fault,
          ((engine.isAuthorized session permission).run world).result = .error fault ∧
          ((Hierarchies.graph engine.directory (.ofRoles permission.admin)
            (contextFor session permission)).run world.hierarchies).result = .error fault
  checked : forall session permission decision,
    ((engine.checkPermission session permission).run world).result = .ok decision ->
    some held ∈ session.activated decision.permission.admin ->
    some granted ∈ decision.permission.roles ->
      decision.granted = true ∧
        (some session.user ∉ decision.permission.users -> canonicalForm held ∈ decision.matched)

theorem reaches_of_canonicalForm_eq {edges : Name -> Name -> Prop} {session : Session}
    {permission : Permission} (hname : Text.blank held = false)
    (hsame : canonicalForm granted = canonicalForm held)
    (hheld : some held ∈ session.activated permission.admin)
    (hgranted : some granted ∈ permission.roles) :
    Reaches edges session permission (.ofText held hname) := by
  have hgrantedName : Text.blank granted = false := by
    rw [← Bool.not_eq_true, ← canonicalForm_eq_empty_iff, hsame, canonicalForm_eq_empty_iff, hname]
    exact Bool.false_ne_true
  exact ⟨held, granted, .ofText held hname, hheld, hname, hgranted, hgrantedName, rfl, hsame.symm,
    Or.inl rfl⟩

theorem matches_of_canonicalForm_eq (hreached : engine.Reached sentinel world)
    (hname : Text.blank held = false) (hsame : canonicalForm granted = canonicalForm held) :
    engine.Matches world held granted where
  authorized := by
    intro session permission hheld hgranted
    rcases decisions_exact hreached session permission with ⟨hallowed, hfailed, _⟩
    cases hresult : ((engine.isAuthorized session permission).run world).result with
    | error fault => exact Or.inr ⟨fault, rfl, (hfailed fault hresult).2.2.2⟩
    | ok allowed =>
        have hentitled := (hallowed allowed hresult).mpr
          (Or.inr ⟨_, reaches_of_canonicalForm_eq hname hsame hheld hgranted⟩)
        exact Or.inl (congrArg Except.ok hentitled)
  checked := by
    intro session permission decision hdecision hheld hgranted
    rcases (decisions_exact hreached session permission).2.2 decision hdecision with
      ⟨stored, _, hjustified⟩
    rw [hjustified.permission_eq] at hheld hgranted ⊢
    refine ⟨?_, fun hdirect => ?_⟩
    · rw [hjustified.granted_iff]
      exact Or.inr ⟨_, reaches_of_canonicalForm_eq hname hsame hheld hgranted⟩
    · rw [hjustified.mem_matched_iff hdirect]
      exact ⟨.ofText held hname, rfl, reaches_of_canonicalForm_eq hname hsame hheld hgranted⟩

end Engine

/--
A name in upper case is the same name, to every graph and in every decision.  In lower case it is
the same name exactly if it holds no one-way capital.
-/
theorem letter_case_ignored_iff {σ τ : Type} {engine : Engine σ τ} {sentinel : String}
    {world : World σ τ} (hreached : engine.Reached sentinel world) {name : String}
    (hname : Text.blank name = false) :
    (canonicalForm (Text.upper name) = canonicalForm name ∧
      Graph.Indistinct (some name) (some (Text.upper name)) ∧
      engine.Matches world name (Text.upper name)) ∧
    (canonicalForm (Text.lower name) = canonicalForm name ↔ Text.holdsOneWay name = false) ∧
    (Graph.Indistinct (some name) (some (Text.lower name)) ↔ Text.holdsOneWay name = false) ∧
    (Text.holdsOneWay name = false -> engine.Matches world name (Text.lower name)) := by
  have hupper := canonicalForm_upper name
  refine ⟨⟨hupper, ?_, ?_⟩, canonicalForm_lower_iff, ?_, ?_⟩
  · exact Graph.indistinct_of_parse_eq (Name.parse_congr hupper.symm)
  · exact Engine.matches_of_canonicalForm_eq hreached hname hupper
  · rw [← canonicalForm_lower_iff]
    constructor
    · intro hsame
      have hparsed := hsame.parse_eq
      rw [Name.parse_some_of_not_blank hname] at hparsed
      exact (Name.parse_some_eq_ok_iff.mp hparsed.symm).2.symm
    · intro hlower
      exact Graph.indistinct_of_parse_eq (Name.parse_congr hlower.symm)
  · intro hnone
    exact Engine.matches_of_canonicalForm_eq hreached hname (canonicalForm_lower_iff.mpr hnone)

theorem letter_case_ignored_for_sharp_s_and_final_sigma :
    let name := "Groß ΟΔΟΣ"
    let engine : Engine Store Unit := ⟨Store.directory, none, true⟩
    let world : World Store Unit := .start "null" (Store.empty "null") ()
    let session : Session := ⟨"ann", [some name], [], none, none⟩
    let permission : Permission :=
      ⟨"ledger", "read", none, false, [], [some (Text.lower name)], none, none, none⟩
    Text.upper name = "GROSS ΟΔΟΣ" ∧ Text.lower name = "groß οδος" ∧
      Graph.Indistinct (some name) (some (Text.upper name)) ∧
      Graph.Indistinct (some name) (some (Text.lower name)) ∧
      engine.Matches world name (Text.lower name) ∧
      ((engine.isAuthorized session permission).run world).result.toOption = some true := by
  intro name engine world session permission
  have hreached : engine.Reached "null" world := .start (Store.empty "null") ()
  have hnone : Text.holdsOneWay name = false := by decide +kernel
  have hname : Text.blank name = false := by decide +kernel
  rcases letter_case_ignored_iff hreached hname with ⟨⟨_, hupper, _⟩, _, hlower, hmatches⟩
  exact ⟨by decide +kernel, by decide +kernel, hupper, hlower.mpr hnone, hmatches hnone,
    by decide +kernel⟩

/-- The lower case of a Kelvin sign is a plain letter, which names another role. -/
theorem lower_case_of_kelvin_sign_is_another_role :
    let kelvin := "\u212A"
    let engine : Engine Store Unit := ⟨Store.directory, none, true⟩
    let world : World Store Unit := .start "null" (Store.empty "null") ()
    let session : Session := ⟨"ann", [some kelvin], [], none, none⟩
    let permission : Permission :=
      ⟨"ledger", "read", none, false, [], [some (Text.lower kelvin)], none, none, none⟩
    Text.blank kelvin = false ∧ Text.lower kelvin = "k" ∧
      canonicalForm (Text.lower kelvin) = "K" ∧ canonicalForm kelvin = kelvin ∧
      canonicalForm (Text.lower kelvin) ≠ canonicalForm kelvin ∧
      ((engine.isAuthorized session permission).run world).result.toOption = some false := by
  decide +kernel

end Entitlement
