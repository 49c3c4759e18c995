import Entitlement.Proofs.Engine.Ruling

/-!
# Edits move decisions one way

A decision rests on the graph that is in view of the hierarchy in which roles are expanded, or on no
graph at all.  More edges, more activated roles and more grants can only make more roles count, so
an added edge never turns a grant into a denial and a removed edge never turns a denial into a
grant.  When an edge that has just been added is removed again, every hierarchy is in view as it was
before, and everything is decided as it was before.
-/

namespace Entitlement

/-!
# More edges and more roles
-/

/-- The second request is made by the same user in the same hierarchy, with no fewer roles. -/
structure Enlarges (session : Session) (permission : Permission) (session' : Session)
    (permission' : Permission) : Prop where
  user_eq : session'.user = session.user
  admin_eq : permission'.admin = permission.admin
  context_eq : Engine.contextFor session' permission' = Engine.contextFor session permission
  activated_subset : session.activated permission.admin ⊆ session'.activated permission.admin
  users_subset : permission.users ⊆ permission'.users
  roles_subset : permission.roles ⊆ permission'.roles

theorem enlarges_self (session : Session) (permission : Permission) :
    Enlarges session permission session permission :=
  ⟨rfl, rfl, rfl, fun _ h => h, fun _ h => h, fun _ h => h⟩

section Requests

variable {σ τ : Type} {engine : Engine σ τ} {world next : World σ τ} {touched : HierarchyKey}
  {session session' : Session} {permission permission' : Permission}

theorem Enlarges.reaches (hlarger : Enlarges session permission session' permission')
    {edges more : Name -> Name -> Prop}
    (hedges : forall child parent, edges child parent -> more child parent) {role : Name}
    (hreach : Reaches edges session permission role) : Reaches more session' permission' role := by
  rcases hreach with ⟨active, granted, held, hactive, hactiveName, hgranted, hgrantedName, hheld,
    hrole, hpath⟩
  exists active, granted, held
  rw [hlarger.admin_eq]
  refine ⟨hlarger.activated_subset hactive, hactiveName, hlarger.roles_subset hgranted,
    hgrantedName, hheld, hrole, ?_⟩
  rcases hpath with hsame | hpath
  · exact Or.inl hsame
  · exact Or.inr (Relation.TransGen.mono hedges _ _ hpath)

namespace Engine

theorem granted_of_enlarges (hlarger : Enlarges session permission session' permission')
    {first second : Graph} (hfirst : first.Sound) (hsecond : second.Sound)
    (hwithin : first.Within second) {verdict : Verdict}
    (hverdict : ruling session permission (.ok first) = .ok verdict)
    (hgranted : verdict.granted = true) :
    exists larger, ruling session' permission' (.ok second) = .ok larger ∧
      larger.granted = true := by
  rcases ruling_ok session' permission' second with ⟨larger, hlargerVerdict⟩
  exists larger
  constructor
  · exact hlargerVerdict
  · rw [(explains_ruling hsecond hlargerVerdict).granted_iff]
    rcases (explains_ruling hfirst hverdict).granted_iff.mp hgranted with hdirect | ⟨role, hreach⟩
    · left
      rw [hlarger.user_eq]
      exact hlarger.users_subset hdirect
    · exact Or.inr ⟨role, hlarger.reaches hwithin hreach⟩

/-!
# Larger requests
-/

theorem isAuthorized_of_enlarges (hlarger : Enlarges session permission session' permission')
    (hsound : world.hierarchies.Sound) {lasts : Prop}
    (hanswers : (engine.isAuthorized session permission).Answers true lasts world) :
    ((engine.isAuthorized session' permission').run world).result = .ok true := by
  rcases granted_of_answers hanswers with ⟨verdict, hgranted, hdecided⟩
  have hverdict := result_of_answers hdecided
  have hkey : roleKey world session' permission' = roleKey world session permission := by
    unfold roleKey
    rw [hlarger.admin_eq, hlarger.context_eq]
  rw [result_decide] at hverdict
  rw [result_isAuthorized, result_decide, hkey]
  cases hview : Hierarchies.view engine.directory world.hierarchies
      (roleKey world session permission) with
  | error fault =>
      rw [hview] at hverdict
      have hdirect := hlarger.users_subset (direct_of_ruling_error hverdict hgranted)
      rw [← hlarger.user_eq] at hdirect
      rw [ruling_of_direct hdirect]
      rfl
  | ok graph =>
      rw [hview] at hverdict
      have hgraph := hsound.of_view hview
      rcases granted_of_enlarges hlarger hgraph hgraph graph.within_refl hverdict
        hgranted with ⟨larger, hruling, hlargerGranted⟩
      rw [hruling]
      exact congrArg Except.ok hlargerGranted

/-!
# Decisions after one change
-/

section Changed

variable {kind : HierarchyKind} {context label : Option String} {edge : Relationship}
  {changed : Bool}

theorem hierarchies_of_update
    (hupdate : (engine.update kind context edge label).effect world = (.ok changed, next)) :
    (Hierarchies.update engine.directory kind context edge label).effect world.hierarchies =
      (.ok changed, next.hierarchies) := by
  have hresult := congrArg Prod.fst hupdate
  have hstate := congrArg (fun outcome => outcome.2.hierarchies) hupdate
  exact Prod.ext hresult hstate

theorem granted_after_add (hsound : world.hierarchies.Sound)
    (hlabel : Change.parse label = .ok .add)
    (hupdate : (engine.update kind context edge label).effect world = (.ok changed, next))
    (hanswers : (engine.isAuthorized session permission).Answers true
      (Hierarchies.Lasting engine.directory (world.hierarchies.cache.key kind context)
        (roleKey world session permission)) world) :
    ((engine.isAuthorized session permission).run next).result = .ok true := by
  have hchanged := hierarchies_of_update hupdate
  rcases Hierarchies.carried_of_update hsound hlabel hchanged with ⟨before, now, _, hcarried⟩
  rcases granted_of_answers hanswers with ⟨verdict, hgranted, hdecided⟩
  have hkey : roleKey next session permission = roleKey world session permission :=
    hcarried.besides.key_eq _ _
  rw [result_isAuthorized, result_decide, hkey]
  rcases grounded_of_answers _ hdecided with hruling | ⟨graph, hstands, hverdict⟩
  · rw [hruling]
    exact congrArg Except.ok hgranted
  · rcases hcarried.stands_add hstands with ⟨later, hlater, hwithin⟩
    rcases granted_of_enlarges (enlarges_self session permission) (hsound.of_view hstands.view_eq)
      ((hsound.of_update hchanged).of_view hlater.view_eq) hwithin hverdict hgranted with
      ⟨larger, hruling, hstill⟩
    rw [hlater.view_eq, hruling]
    exact congrArg Except.ok hstill

theorem denied_after_remove (hsound : world.hierarchies.Sound)
    (hlabel : Change.parse label = .ok .remove)
    (hupdate : (engine.update kind context edge label).effect world = (.ok changed, next))
    (hanswers : (engine.isAuthorized session permission).Answers false
      (Hierarchies.Lasting engine.directory (world.hierarchies.cache.key kind context)
        (roleKey world session permission)) world) :
    ((engine.isAuthorized session permission).run next).result = .ok false := by
  have hchanged := hierarchies_of_update hupdate
  rcases Hierarchies.carried_of_update hsound hlabel hchanged with ⟨before, now, _, hcarried⟩
  rcases granted_of_answers hanswers with ⟨verdict, hdenied, hdecided⟩
  have hkey : roleKey next session permission = roleKey world session permission :=
    hcarried.besides.key_eq _ _
  rw [result_isAuthorized, result_decide, hkey]
  rcases grounded_of_answers _ hdecided with hruling | ⟨graph, hstands, hverdict⟩
  · rw [hruling]
    exact congrArg Except.ok hdenied
  · rcases hcarried.stands_remove hstands with ⟨later, hlater, hwithin⟩
    rcases ruling_ok session permission later with ⟨smaller, hruling⟩
    rw [hlater.view_eq, hruling]
    cases hgranted : smaller.granted with
    | false => exact congrArg Except.ok hgranted
    | true =>
        -- What is granted on fewer edges would have been granted before.
        rcases granted_of_enlarges (enlarges_self session permission)
          ((hsound.of_update hchanged).of_view hlater.view_eq) (hsound.of_view hstands.view_eq)
          hwithin hruling hgranted with ⟨larger, hlarger, hlargerGranted⟩
        rw [hverdict] at hlarger
        cases hlarger
        rw [hdenied] at hlargerGranted
        cases hlargerGranted

end Changed

/-!
# An edge that is added and removed again
-/

/-- Everything that is answered in a world is answered in the same way in another one. -/
structure Restores (engine : Engine σ τ) (touched : HierarchyKey) (world restored : World σ τ) :
    Prop where
  graphs : forall kind context graph,
    (Hierarchies.graph engine.directory kind context).Answers graph
        (Hierarchies.Lasting engine.directory touched (world.hierarchies.cache.key kind context))
        world.hierarchies ->
      exists again,
        ((Hierarchies.graph engine.directory kind context).run restored.hierarchies).result =
            .ok again ∧
          graph.SameAnswers again ∧
          forall child parent, graph.joins child parent = again.joins child parent
  verdicts : forall session permission verdict,
    (engine.decide session permission).Answers verdict
        (Hierarchies.Lasting engine.directory touched (roleKey world session permission)) world ->
      ((engine.decide session permission).run restored).result = .ok verdict
  /-- A check is answered alike, up to its audit, if the same permission is stored for it. -/
  checks : forall session permission decision stored,
    (engine.checkPermission session permission).Answers decision engine.directory.ListsSteadily
        world ->
      engine.stored? (requestFor session permission) restored = .ok (some stored) ->
        stored.withContext (contextFor session permission) = decision.permission ->
          exists again,
            ((engine.checkPermission session permission).run restored).result = .ok again ∧
              settled again = settled decision

section Undone

variable {restored : World σ τ} {edge : Relationship} {before now current again : Graph}

theorem restores_of_carried (hsound : world.hierarchies.Sound)
    (hrestored : restored.hierarchies.Sound) {changed : Bool}
    (hadd : Hierarchies.Carried engine.directory touched edge .add true world.hierarchies
      next.hierarchies before now)
    (hremove : Hierarchies.Carried engine.directory touched edge .remove changed next.hierarchies
      restored.hierarchies current again) :
    engine.Restores touched world restored := by
  have hkey : forall kind context, restored.hierarchies.cache.key kind context =
      world.hierarchies.cache.key kind context := by
    intro kind context
    rw [hremove.besides.key_eq, hadd.besides.key_eq]
  have hsame : forall {key graph},
      Hierarchies.Stands engine.directory world.hierarchies touched key graph ->
        exists later, Hierarchies.Stands engine.directory restored.hierarchies touched key later ∧
          graph.SameAnswers later ∧
          forall child parent, graph.joins child parent = later.joins child parent := by
    intro key graph hstands
    rcases hadd.stands_undone hremove hstands with ⟨later, hlater, hedges⟩
    exact ⟨later, hlater, (hsound.of_view hstands.view_eq).sameAnswers
      (hrestored.of_view hlater.view_eq) hedges, Graph.joins_eq_of_hasEdge_eq hedges⟩
  constructor
  · intro kind context graph hanswers
    rcases hsame (Hierarchies.stands_of_answers touched hanswers) with ⟨later, hlater, hquestions⟩
    exists later
    constructor
    · rw [Action.result_eq_effect, Hierarchies.result_graph, hkey]
      exact hlater.view_eq
    · exact hquestions
  · intro session permission verdict hanswers
    apply (grounded_of_answers _ hanswers).result_decide (hkey _ _)
    intro graph hstands
    rcases hsame hstands with ⟨later, hlater, hquestions, _⟩
    exact ⟨later, ruling_of_sameAnswers hquestions session permission, hlater.view_eq⟩
  · intro session permission decision stored hanswers hstored hpermission
    rcases grounded_of_check hanswers touched with ⟨verdict, hgrounded, hsettled⟩
    rw [← hpermission] at hgrounded hsettled
    have hloaded := restored.hierarchies.cache.isLoaded_eq_true hremove.loaded
    have hverdict : ((engine.decide session
        (stored.withContext (contextFor session permission))).effect
          (engine.afterReading (requestFor session permission) restored)).1 = .ok verdict := by
      have hread : roleKey (engine.afterReading (requestFor session permission) restored) session
          (stored.withContext (contextFor session permission)) =
            roleKey world session (stored.withContext (contextFor session permission)) :=
        hkey _ _
      apply hgrounded.result_decide hread
      intro graph hstands
      rcases hsame hstands with ⟨later, hlater, hquestions, _⟩
      exact ⟨later, ruling_of_sameAnswers hquestions session _, hlater.view_read hloaded _⟩
    rcases check_of_decided hstored hverdict with ⟨again, hagain, hsettledAgain⟩
    exact ⟨again, hagain, hsettledAgain.trans hsettled.symm⟩

/-- An edge that has been added can be removed at once, and then everything is as it was before. -/
theorem exists_restored (hsound : world.hierarchies.Sound) {kind : HierarchyKind}
    {context label undo : Option String} (hlabel : Change.parse label = .ok .add)
    (hundo : Change.parse undo = .ok .remove)
    (hupdate : (engine.update kind context edge label).effect world = (.ok true, next)) :
    exists restored,
      (engine.update kind context edge undo).effect next = (.ok true, restored) ∧
        engine.Restores (world.hierarchies.cache.key kind context) world restored := by
  have hadded := hierarchies_of_update hupdate
  rcases Hierarchies.carried_of_update hsound hlabel hadded with ⟨before, now, _, hadd⟩
  have hloaded := hadd.loaded
  rw [← hadd.besides.key_eq] at hloaded
  rcases Hierarchies.exists_update_remove hadd.open_after hloaded hundo edge with
    ⟨changed, last, hremoved⟩
  have hnext := hsound.of_update hadded
  rcases Hierarchies.carried_of_update hnext hundo hremoved with ⟨current, again, _, hremove⟩
  rw [hadd.besides.key_eq] at hremove
  rw [(hadd.undone hremove).1] at hremoved
  have heffect : (engine.update kind context edge undo).effect next =
      (.ok true, { next with hierarchies := last }) := by
    unfold update World.onHierarchies
    rw [Action.effect_within, hremoved]
  exists { next with hierarchies := last }
  constructor
  · exact heffect
  · exact restores_of_carried hsound (hnext.of_update hremoved) hadd hremove

end Undone

/--
Edits move decisions one way, and they can be undone.  An added edge never turns a grant into a
denial, a removed one never turns a denial into a grant, and asking with more roles or more grants
never turns a grant into a denial.  An edge that is added gives new ascendants to its child and to
the names below the child, namely its parent and the ascendants of the parent.  When it is removed
again at once, every hierarchy and every decision is answered as before.
-/
theorem edits_move_one_way {sentinel : String} (hreached : engine.Reached sentinel world)
    (kind : HierarchyKind) (context : Option String) (edge : Relationship) :
    let touched := world.hierarchies.cache.key kind context
    (forall label changed next,
      (engine.update kind context edge label).effect world = (.ok changed, next) ->
        forall session permission,
          let lasting :=
            Hierarchies.Lasting engine.directory touched (roleKey world session permission)
          (Change.parse label = .ok .add ->
            (engine.isAuthorized session permission).Answers true lasting world ->
              ((engine.isAuthorized session permission).run next).result = .ok true) ∧
            (Change.parse label = .ok .remove ->
              (engine.isAuthorized session permission).Answers false lasting world ->
                ((engine.isAuthorized session permission).run next).result = .ok false)) ∧
      (forall session permission session' permission',
        Enlarges session permission session' permission' ->
          (engine.isAuthorized session permission).Answers true True world ->
            ((engine.isAuthorized session' permission').run world).result = .ok true) ∧
      forall label next, Change.parse label = .ok .add ->
        (engine.update kind context edge label).effect world = (.ok true, next) ->
          (exists before now,
            ((Hierarchies.graph engine.directory kind context).run world.hierarchies).result =
                .ok before ∧
              ((Hierarchies.graph engine.directory kind context).run next.hierarchies).result =
                .ok now ∧
              forall text name,
                name ∈ now.ascendants text ↔
                  name ∈ before.ascendants text ∨
                    (Name.parse text = .ok edge.child ∨ edge.child ∈ before.ascendants text) ∧
                      (name = edge.parent ∨
                        name ∈ before.ascendants (some edge.parent.text))) ∧
            forall undo, Change.parse undo = .ok .remove ->
              exists restored,
                (engine.update kind context edge undo).effect next = (.ok true, restored) ∧
                  engine.Restores touched world restored := by
  intro touched
  have hsound := sound_of_reached hreached
  constructor
  · intro label changed next hupdate session permission lasting
    constructor
    · intro hlabel hanswers
      exact granted_after_add hsound hlabel hupdate hanswers
    · intro hlabel hanswers
      exact denied_after_remove hsound hlabel hupdate hanswers
  constructor
  · intro session permission session' permission' hlarger hanswers
    exact isAuthorized_of_enlarges hlarger hsound hanswers
  · intro label next hlabel hupdate
    constructor
    · rcases Hierarchies.carried_of_update hsound hlabel (hierarchies_of_update hupdate) with
        ⟨before, now, hbefore, hcarried⟩
      exists before, now
      constructor
      · exact (Hierarchies.result_graph engine.directory kind context _).trans hcarried.view_eq
      constructor
      · rw [Action.result_eq_effect, Hierarchies.result_graph, hcarried.besides.key_eq]
        exact Hierarchies.view_of_loaded hcarried.open_after hcarried.loaded
      · intro text name
        exact hcarried.changes.mem_ascendants_add_iff hbefore
    · intro undo hundo
      exact exists_restored hsound hlabel hundo hupdate

/-- A new chief grants a role to the clerks below the lead, until the edge is removed again. -/
theorem edits_move_one_way_for_a_new_chief :
    let stored : Relationship := ⟨.ofText "clerk" rfl, .ofText "lead" rfl⟩
    let edge : Relationship := ⟨.ofText "lead" rfl, .ofText "chief" rfl⟩
    let session : Session := ⟨"ann", [some "Clerk "], [], some " NULL", none⟩
    let leads : Permission := ⟨"ledger", "read", none, false, [], [some " Lead "], none, none, none⟩
    let chiefs : Permission := { leads with roles := [some "Chief"] }
    let engine : Engine Store Unit := ⟨Store.directory, none, true⟩
    let world : World Store Unit :=
      .start "null" ((Store.add .role stored none).run (Store.empty "null")).state ()
    let next := ((engine.update .role none edge (some "add")).effect world).2
    let restored := ((engine.update .role none edge (some "remove")).effect next).2
    ((engine.isAuthorized session leads).run next).result = .ok true ∧
      ((engine.isAuthorized session { leads with users := [some "bob"] }).run world).result =
        .ok true ∧
      ((engine.isAuthorized session chiefs).run next).result.toOption = some true ∧
      ((engine.decide session chiefs).run restored).result = .ok .unmatched ∧
      exists now,
        ((Hierarchies.graph engine.directory .role none).run next.hierarchies).result = .ok now ∧
          edge.parent ∈ now.ascendants (some "clerk") := by
  intro stored edge session leads chiefs engine world next restored
  have hreached : engine.Reached "null" world := .start _ ()
  have hsteady : forall key, Hierarchies.Lasting engine.directory
      (world.hierarchies.cache.key .role none) key := fun _ => Or.inl Store.listsSteadily
  have hupdate : (engine.update .role none edge (some "add")).effect world = (.ok true, next) :=
    Prod.ext (Action.eq_ok_of_toOption (by decide +kernel)) rfl
  have hgranted : (engine.isAuthorized session leads).effect world = (.ok true, _) :=
    Prod.ext (Action.eq_ok_of_toOption (by decide +kernel)) rfl
  have hdenied : ((engine.decide session chiefs).effect world).1 = .ok .unmatched :=
    Action.eq_ok_of_toOption (by decide +kernel)
  rcases edits_move_one_way hreached .role none edge with ⟨honeWay, hlarger, hadded⟩
  rcases hadded (some "add") next rfl hupdate with
    ⟨⟨before, now, hbefore, hnow, hascendants⟩, hundone⟩
  rcases hundone (some "remove") rfl with ⟨last, hlast, hrestores⟩
  have hsame : last = restored := (congrArg Prod.snd hlast).symm
  constructor
  · exact (honeWay (some "add") true next hupdate session leads).1 rfl
      (.due (congrArg Prod.fst hgranted) (hsteady _))
  constructor
  · apply hlarger session leads _ _ _ (.due (congrArg Prod.fst hgranted) trivial)
    exact ⟨rfl, rfl, rfl, fun _ h => h, List.nil_subset _, fun _ h => h⟩
  constructor
  · decide +kernel
  constructor
  · rw [← hsame]
    exact hrestores.verdicts session chiefs .unmatched (.due hdenied (hsteady _))
  · have hbelow : ((Hierarchies.graph engine.directory .role none).run
        world.hierarchies).result.toOption.any
          (fun graph => (graph.ascendants (some "clerk")).contains edge.child) = true := by
      decide +kernel
    rw [hbefore] at hbelow
    have hchild : edge.child ∈ before.ascendants (some "clerk") := List.contains_iff_mem.mp hbelow
    exact ⟨now, hnow, (hascendants (some "clerk") edge.parent).mpr
      (Or.inr ⟨Or.inr hchild, Or.inl rfl⟩)⟩

end Engine
end Requests
end Entitlement
