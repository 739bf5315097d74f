/-
The members of a fallback group: what the expansion of a primary lists.
-/
import NativeDNS.Router.Group
import NativeDNS.Rules.FallbackGraph

namespace NativeDNS

open DepthFirst

def fallbackServers (servers : List Server) (server : Server) : List Server :=
  server.fallbackIds.filterMap (findServer servers)

/-- The expanded group, disabled members included. -/
def groupMembers (servers : List Server) (primary : Server) : List Server :=
  appendServer servers (servers.length + 1) [] primary

/-- The primary and every server its fallbacks lead to. -/
def GroupMember (servers : List Server) (primary server : Server) : Prop :=
  server = primary ∨ ∃ id ∈ primary.fallbackIds, Reaches servers id server

/-- The fallbacks of the primary do not lead back to it. -/
def AcyclicGroup (servers : List Server) (primary : Server) : Prop :=
  ∀ server, ∀ id ∈ primary.fallbackIds, Reaches servers id server →
    server.id ≠ primary.id

theorem appendServer_of_listed {servers candidates : List Server} {fuel : Nat}
    {server : Server} (known : server.id ∈ candidates.map (·.id)) :
    appendServer servers fuel candidates server = candidates := by
  cases fuel with
  | zero =>
      rfl
  | succ fuel =>
      obtain ⟨listed, member, same⟩ := List.mem_map.mp known
      rw [appendServer, if_pos]
      exact List.any_eq_true.mpr ⟨listed, member, beq_iff_eq.mpr same⟩

theorem appendServer_of_fresh {servers candidates : List Server} {fuel : Nat}
    {server : Server} (fresh : server.id ∉ candidates.map (·.id)) :
    appendServer servers (fuel + 1) candidates server =
      (fallbackServers servers server).foldl (appendServer servers fuel)
        (candidates ++ [server]) := by
  rw [appendServer, if_neg, fallbackServers, List.foldl_filterMap]
  · refine congrArg
      (fun step => List.foldl step (candidates ++ [server]) server.fallbackIds) ?_
    funext listed id
    cases findServer servers id with
    | none =>
        rfl
    | some found =>
        rfl
  · intro listed
    obtain ⟨other, member, same⟩ := List.any_eq_true.mp listed
    exact fresh (List.mem_map.mpr ⟨other, member, beq_iff_eq.mp same⟩)

theorem fallbackServers_found {servers : List Server} {server fallback : Server}
    (listed : fallback ∈ fallbackServers servers server) :
    ∃ id ∈ server.fallbackIds, findServer servers id = some fallback :=
  List.mem_filterMap.mp listed

/-- The expansion follows the collecting traversal.  Every call below lists
one more of the identifiers there are, so the fuel outlasts the chain. -/
theorem appendServers_collects {servers : List Server} {root : UInt32} (fuel : Nat)
    {listed todo : List Server} (distinct : (listed.map (·.id)).Nodup)
    (within : ∀ server ∈ listed, server.id ∈ root :: servers.map (·.id))
    (known : ∀ server ∈ todo, server.id ∈ root :: servers.map (·.id))
    (enough : servers.length + 1 ≤ fuel + listed.length) :
    Collects (·.id) (fallbackServers servers) listed todo
        (todo.foldl (appendServer servers fuel) listed) ∧
      (∀ server ∈ todo.foldl (appendServer servers fuel) listed,
        server.id ∈ root :: servers.map (·.id)) := by
  induction fuel generalizing listed todo with
  | zero =>
      -- All identifiers are listed, so nothing is left to take.
      have all : ∀ id ∈ root :: servers.map (·.id), id ∈ listed.map (·.id) := by
        have inside : ∀ id ∈ listed.map (·.id), id ∈ root :: servers.map (·.id) :=
          List.forall_mem_map.mpr within
        have whole := (distinct.subperm inside).perm_of_length_le
          (by rw [List.length_cons, List.length_map, List.length_map]; omega)
        exact fun id member => whole.mem_iff.mpr member
      induction todo with
      | nil =>
          exact ⟨.done, within⟩
      | cons server todo rest =>
          obtain ⟨here, later⟩ := List.forall_mem_cons.mp known
          obtain ⟨run, inside⟩ := rest later
          exact ⟨.skips (all _ here) run, inside⟩
  | succ fuel ih =>
      induction todo generalizing listed with
      | nil =>
          exact ⟨.done, within⟩
      | cons server todo rest =>
          obtain ⟨here, later⟩ := List.forall_mem_cons.mp known
          rw [List.foldl_cons]
          by_cases old : server.id ∈ listed.map (·.id)
          · rw [appendServer_of_listed old]
            obtain ⟨run, inside⟩ := rest distinct within later enough
            exact ⟨.skips old run, inside⟩
          rw [appendServer_of_fresh old]
          have grown : ((listed ++ [server]).map (·.id)).Nodup := by
            rw [List.map_append, List.map_singleton]
            exact List.nodup_append.mpr ⟨distinct, List.nodup_singleton _,
              fun _ inListed _ isServer same =>
                old (List.mem_singleton.mp isServer ▸ same ▸ inListed)⟩
          have fallbacks : ∀ fallback ∈ fallbackServers servers server,
              fallback.id ∈ root :: servers.map (·.id) := by
            intro fallback member
            obtain ⟨id, _, found⟩ := fallbackServers_found member
            exact List.mem_cons_of_mem _
              (List.mem_map_of_mem (findServer_some found).1)
          obtain ⟨followers, inside⟩ := ih grown
            (List.forall_mem_append.mpr ⟨within, List.forall_mem_singleton.mpr here⟩)
            fallbacks (by rw [List.length_append, List.length_singleton]; omega)
          have longer : (listed ++ [server]).length ≤
              ((fallbackServers servers server).foldl (appendServer servers fuel)
                (listed ++ [server])).length := by
            have kept := (grown.of_map).subperm followers.kept
            exact kept.length_le
          rw [List.length_append, List.length_singleton] at longer
          obtain ⟨run, after⟩ := rest (followers.nodup grown) inside later (by omega)
          exact ⟨.takes old followers run, after⟩

theorem groupMembers_collects (servers : List Server) (primary : Server) :
    Collects (·.id) (fallbackServers servers) [] [primary]
      (groupMembers servers primary) :=
  (@appendServers_collects servers primary.id (servers.length + 1) [] [primary]
    List.nodup_nil (fun _ member => absurd member List.not_mem_nil)
    (List.forall_mem_singleton.mpr List.mem_cons_self) (Nat.le_add_right _ _)).1

theorem groupMembers_nodup (servers : List Server) (primary : Server) :
    ((groupMembers servers primary).map (·.id)).Nodup :=
  (groupMembers_collects servers primary).nodup List.nodup_nil

theorem mem_groupMembers_iff {servers : List Server} {primary server : Server}
    (acyclic : AcyclicGroup servers primary) :
    server ∈ groupMembers servers primary ↔ GroupMember servers primary server := by
  have run := groupMembers_collects servers primary
  constructor
  · refine run.forall ?_ (fun _ member => absurd member List.not_mem_nil) ?_ server
    · rintro node (rfl | ⟨first, isFallback, reached⟩) follower listed
      · obtain ⟨id, inIds, found⟩ := fallbackServers_found listed
        exact Or.inr ⟨id, inIds, .self found⟩
      · obtain ⟨id, inIds, found⟩ := fallbackServers_found listed
        exact Or.inr ⟨first, isFallback, .fallback reached inIds found⟩
    · exact List.forall_mem_singleton.mpr (Or.inl rfl)
  · obtain ⟨started, followed⟩ := run.covers
    have holdsPrimary : primary ∈ groupMembers servers primary := by
      have first := run
      cases first with
      | skips known _ =>
          cases known
      | takes _ followers rest =>
          exact rest.kept _ (followers.kept _ List.mem_cons_self)
    -- A listed identifier that is not the primary's names one server only.
    have named {id : UInt32} {found : Server} (lookup : findServer servers id = some found)
        (listed : found.id ∈ (groupMembers servers primary).map (·.id))
        (differs : found.id ≠ primary.id) : found ∈ groupMembers servers primary := by
      obtain ⟨member, inside, same⟩ := List.mem_map.mp listed
      let holds : Server → Prop := fun node =>
        node = primary ∨ ∃ other, findServer servers other = some node
      have origins : ∀ node ∈ groupMembers servers primary, holds node := by
        refine run.forall ?_ (fun _ none => absurd none List.not_mem_nil)
          (List.forall_mem_singleton.mpr (Or.inl rfl))
        intro node _ follower isNext
        obtain ⟨other, _, otherFound⟩ := fallbackServers_found isNext
        exact Or.inr ⟨other, otherFound⟩
      rcases origins member inside with rfl | ⟨other, otherFound⟩
      · exact absurd same.symm differs
      · rw [← (findServer_some otherFound).2, same, (findServer_some lookup).2] at otherFound
        rw [lookup] at otherFound
        cases otherFound
        exact inside
    rintro (rfl | ⟨id, isFallback, reached⟩)
    · exact holdsPrimary
    · induction reached with
      | self found =>
          refine named found ?_ (acyclic _ id isFallback (.self found))
          rcases followed _ holdsPrimary with none | followers
          · cases none
          · exact followers _ (List.mem_filterMap.mpr ⟨id, isFallback, found⟩)
      | fallback before listed found ih =>
          refine named found ?_ (acyclic _ id isFallback (.fallback before listed found))
          rcases followed _ ih with none | followers
          · cases none
          · exact followers _ (List.mem_filterMap.mpr ⟨_, listed, found⟩)

theorem mem_groupCandidates_iff {servers : List Server} {primary server : Server}
    (acyclic : AcyclicGroup servers primary) :
    server ∈ groupCandidates servers primary ↔
      GroupMember servers primary server ∧ server.enabled = true := by
  change server ∈ (groupMembers servers primary).filter (·.enabled) ↔ _
  rw [List.mem_filter, mem_groupMembers_iff acyclic]

theorem groupCandidates_nodup (servers : List Server) (primary : Server) :
    ((groupCandidates servers primary).map (·.id)).Nodup :=
  (groupMembers_nodup servers primary).sublist (List.filter_sublist.map _)

/-! ### Groups of an accepted configuration -/

theorem reaches_path {servers : List Server} {start target : UInt32} {server : Server}
    (edge : FallbackEdge servers start target) (reached : Reaches servers target server) :
    Relation.TransGen (FallbackEdge servers) start server.id := by
  induction reached with
  | self found =>
      rw [(findServer_some found).2]
      exact .single edge
  | fallback before listed found ih =>
      refine ih.tail ?_
      rw [(findServer_some found).2]
      cases before with
      | self first =>
          exact ⟨_, (findServer_some first).1, rfl, listed⟩
      | fallback _ _ later =>
          exact ⟨_, (findServer_some later).1, rfl, listed⟩

theorem validate_acyclicGroup {platform : Platform} {config : Config}
    {configured : Server} (accepted : validate platform config = .ok ())
    (member : configured ∈ config.servers) (route : NetworkRoute) :
    AcyclicGroup config.servers { configured with route := route } := by
  intro server id isFallback reached same
  have path := reaches_path ⟨configured, member, rfl, isFallback⟩ reached
  rw [same] at path
  exact validate_acyclic accepted configured.id path

end NativeDNS
