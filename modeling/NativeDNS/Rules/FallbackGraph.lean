/-
The fallback graph of a configuration: what its cycle check decides.
-/
import NativeDNS.Library.DepthFirst
import NativeDNS.Rules.Validation
import Mathlib.Data.List.Perm.Subperm

namespace NativeDNS

open ByteText (text)
open CheckedResult
open DepthFirst

def fallbacksOf (servers : List Server) (id : UInt32) : List UInt32 :=
  ((findServer servers id).map (·.fallbackIds)).getD []

/-- One server lists the other as a fallback. -/
def FallbackEdge (servers : List Server) (id fallback : UInt32) : Prop :=
  ∃ server ∈ servers, server.id = id ∧ fallback ∈ server.fallbackIds

/-- What the checks before the traversal have established. -/
structure FallbackTable (servers : List Server) : Prop where
  distinct : (servers.map (·.id)).Nodup
  nonzero : ∀ server ∈ servers, server.id ≠ 0 ∧ 0 ∉ server.fallbackIds
  unique : ∀ server ∈ servers, server.fallbackIds.Nodup
  other : ∀ server ∈ servers, server.id ∉ server.fallbackIds
  defined : ∀ server ∈ servers, ∀ fallback ∈ server.fallbackIds,
    fallback ∈ servers.map (·.id)

theorem findServer_own {servers : List Server} {server : Server}
    (distinct : (servers.map (·.id)).Nodup) (member : server ∈ servers) :
    findServer servers server.id = some server := by
  cases found : findServer servers server.id with
  | none =>
      exact absurd (beq_self_eq_true server.id)
        (List.find?_eq_none.mp found server member)
  | some other =>
      obtain ⟨inside, same⟩ := findServer_some found
      rw [List.inj_on_of_nodup_map distinct inside member same]

theorem fallbackEdge_iff {servers : List Server} {id fallback : UInt32}
    (distinct : (servers.map (·.id)).Nodup) :
    Follows (fallbacksOf servers) id fallback ↔ FallbackEdge servers id fallback := by
  unfold Follows fallbacksOf
  constructor
  · intro listed
    cases found : findServer servers id with
    | none =>
        rw [found] at listed
        cases listed
    | some server =>
        rw [found] at listed
        obtain ⟨member, same⟩ := findServer_some found
        exact ⟨server, member, same, listed⟩
  · rintro ⟨server, member, rfl, listed⟩
    rw [findServer_own distinct member]
    exact listed

/-! ### The recursive check -/

/-- A traversal that meets an open server raises. -/
def walkOutcome : Option (List UInt32) → Checked (List UInt32)
  | some visited => .ok visited
  | none => .error fallbackCycle

theorem visitServer_of_visited {servers : List Server} {fuel : Nat}
    {visiting visited : List UInt32} {id : UInt32} (old : id ∈ visited) :
    visitServer servers (fuel + 1) visiting visited id = .ok visited := by
  rw [visitServer, if_pos old]
  rfl

theorem visitServer_of_visiting {servers : List Server} {fuel : Nat}
    {visiting visited : List UInt32} {id : UInt32} (fresh : id ∉ visited)
    (again : id ∈ visiting) :
    visitServer servers (fuel + 1) visiting visited id = .error fallbackCycle := by
  rw [visitServer, if_neg fresh, if_pos again]
  rfl

theorem visitServer_of_fresh {servers : List Server} {fuel : Nat}
    {visiting visited : List UInt32} {id : UInt32} (fresh : id ∉ visited)
    (first : id ∉ visiting) :
    visitServer servers (fuel + 1) visiting visited id =
      ((fallbacksOf servers id).foldlM
          (fun closed fallback => visitServer servers fuel (id :: visiting) closed fallback)
          visited >>=
        fun visited => pure (id :: visited)) := by
  rw [visitServer, if_neg fresh, if_neg first]
  rfl

/-- The check follows the traversal.  The open servers are distinct, so the
fuel outlasts them. -/
theorem visitServers_walks {servers : List Server}
    (defined : ∀ id, ∀ fallback ∈ fallbacksOf servers id,
      fallback ∈ servers.map (·.id)) (fuel : Nat)
    {visiting visited todo : List UInt32} (open_ : visiting.Nodup)
    (known : ∀ id ∈ visiting, id ∈ servers.map (·.id))
    (within : ∀ id ∈ todo, id ∈ servers.map (·.id))
    (enough : servers.length < fuel + visiting.length) :
    ∃ result, Walks (fallbacksOf servers) visiting visited todo result ∧
      todo.foldlM (fun closed id => visitServer servers fuel visiting closed id)
        visited = walkOutcome result := by
  induction fuel generalizing visiting visited todo with
  | zero =>
      have atMost := (open_.subperm known).length_le
      rw [List.length_map] at atMost
      omega
  | succ fuel ih =>
      induction todo generalizing visited with
      | nil =>
          exact ⟨some visited, .done, rfl⟩
      | cons id todo rest =>
          obtain ⟨inside, later⟩ := List.forall_mem_cons.mp within
          rw [List.foldlM_cons]
          by_cases old : id ∈ visited
          · obtain ⟨result, walk, run⟩ := @rest visited later
            rw [visitServer_of_visited old, ok_bind]
            exact ⟨result, .skips old walk, run⟩
          by_cases again : id ∈ visiting
          · rw [visitServer_of_visiting old again]
            exact ⟨none, .meets old again, rfl⟩
          rw [visitServer_of_fresh old again]
          obtain ⟨below, walk, run⟩ := @ih (id :: visiting) visited _
            (List.nodup_cons.mpr ⟨again, open_⟩)
            (List.forall_mem_cons.mpr ⟨inside, known⟩) (defined id)
            (by rw [List.length_cons]; omega)
          rw [run]
          cases below with
          | none =>
              exact ⟨none, .stops old again walk, rfl⟩
          | some inner =>
              obtain ⟨result, after, run⟩ := @rest (id :: inner) later
              exact ⟨result, .enters old again walk after, run⟩

/-- The graph check raises exactly when the traversal from every server meets
an open one. -/
theorem validateFallbackGraph_walks {servers : List Server}
    (defined : ∀ id, ∀ fallback ∈ fallbacksOf servers id,
      fallback ∈ servers.map (·.id)) :
    ∃ result, Walks (fallbacksOf servers) [] [] (servers.map (·.id)) result ∧
      validateFallbackGraph servers = (walkOutcome result).map fun _ => () := by
  obtain ⟨result, walk, run⟩ := @visitServers_walks servers defined
    (servers.length + 1) [] [] (servers.map (·.id)) List.nodup_nil
    (fun _ member => absurd member List.not_mem_nil) (fun _ member => member)
    (Nat.lt_succ_self _)
  refine ⟨result, walk, ?_⟩
  unfold validateFallbackGraph
  rw [run]
  cases result with
  | none =>
      rfl
  | some visited =>
      rfl

theorem fallbacksOf_defined {servers : List Server}
    (defined : ∀ server ∈ servers, ∀ fallback ∈ server.fallbackIds,
      fallback ∈ servers.map (·.id))
    (id fallback : UInt32) (listed : fallback ∈ fallbacksOf servers id) :
    fallback ∈ servers.map (·.id) := by
  unfold fallbacksOf at listed
  cases found : findServer servers id with
  | none =>
      rw [found] at listed
      cases listed
  | some server =>
      rw [found] at listed
      exact defined server (findServer_some found).1 fallback listed

/-- A cycle runs through servers only, so the traversal from every server
would meet it. -/
theorem fallbacksOf_whole {servers : List Server} (id : UInt32)
    (leads : fallbacksOf servers id ≠ []) : id ∈ servers.map (·.id) := by
  unfold fallbacksOf at leads
  cases found : findServer servers id with
  | none =>
      rw [found] at leads
      exact absurd rfl leads
  | some server =>
      obtain ⟨member, same⟩ := findServer_some found
      exact List.mem_map.mpr ⟨server, member, same⟩

/-- The depth-first check of a configuration that passed the checks before it
ends with one result, and raises exactly when the fallback graph has a cycle. -/
theorem validateFallbackGraph_iff (config : Config)
    (table : FallbackTable config.servers) :
    (∃ result, ∀ other, Walks (fallbacksOf config.servers) [] []
        (config.servers.map (·.id)) other ↔ other = result) ∧
      (validateFallbackGraph config.servers = .error fallbackCycle ↔
        ∃ id, Relation.TransGen (FallbackEdge config.servers) id id) ∧
      (validateFallbackGraph config.servers = .ok () ↔
        ¬ ∃ id, Relation.TransGen (FallbackEdge config.servers) id id) := by
  obtain ⟨result, walk, run⟩ :=
    validateFallbackGraph_walks (fallbacksOf_defined table.defined)
  have edges : Follows (fallbacksOf config.servers) = FallbackEdge config.servers := by
    funext id fallback
    exact propext (fallbackEdge_iff table.distinct)
  have meets := walk.none_iff fallbacksOf_whole
  rw [HasCycle, edges] at meets
  refine ⟨⟨result, fun other => ⟨fun also => also.unique walk, fun same => same ▸ walk⟩⟩, ?_⟩
  rw [← meets, run]
  cases result with
  | none =>
      refine ⟨iff_of_true rfl rfl, iff_of_false ?_ (fun absent => absent rfl)⟩
      intro impossible
      cases impossible
  | some visited =>
      have found : ¬ (some visited : Option (List UInt32)) = none :=
        Option.some_ne_none visited
      refine ⟨iff_of_false ?_ found, iff_of_true rfl found⟩
      intro impossible
      cases impossible

def diamondServers : List Server :=
  [{ id := 1, fallbackIds := [2, 3] }, { id := 2, fallbackIds := [4] },
    { id := 3, fallbackIds := [4] }, { id := 4 }]

theorem diamondServers_table : FallbackTable diamondServers where
  distinct := by decide
  nonzero := by decide
  unique := by decide
  other := by decide
  defined := by simp [diamondServers]

theorem validateFallbackGraph_iff_diamond :
    FallbackTable diamondServers ∧
      validateFallbackGraph diamondServers = .ok () ∧
      ¬ ∃ id, Relation.TransGen (FallbackEdge diamondServers) id id :=
  ⟨diamondServers_table, by decide,
    (validateFallbackGraph_iff { servers := diamondServers }
      diamondServers_table).2.2.mp (by decide)⟩

/-! ### The graph of an accepted configuration -/

theorem validateFallbackIds_eq_ok {own : UInt32} {seen ids : List UInt32} :
    validateFallbackIds own seen ids = .ok () ↔
      0 ∉ ids ∧ own ∉ ids ∧ ids.Nodup ∧ ∀ id ∈ ids, id ∉ seen := by
  induction ids generalizing seen with
  | nil =>
      simp [validateFallbackIds]
  | cons id rest ih =>
      rw [validateFallbackIds, bind_eq_ok]
      simp only [rejectIf_eq_ok, not_or, ih, exists_and_left, exists_const,
        List.mem_cons, List.nodup_cons]
      constructor
      · rintro ⟨⟨nonzero, other, fresh⟩, restNonzero, restOther, distinct, later⟩
        refine ⟨⟨Ne.symm nonzero, restNonzero⟩, ⟨Ne.symm other, restOther⟩,
          ⟨fun member => (later id member).1 rfl, distinct⟩, ?_⟩
        rintro listed (rfl | member)
        · exact fresh
        · exact (later listed member).2
      · rintro ⟨⟨nonzero, restNonzero⟩, ⟨other, restOther⟩, ⟨apart, distinct⟩, later⟩
        refine ⟨⟨Ne.symm nonzero, Ne.symm other, later id (Or.inl rfl)⟩, restNonzero,
          restOther, distinct, fun listed member => ⟨?_, later listed (Or.inr member)⟩⟩
        rintro rfl
        exact apart member

theorem validateServer_eq_ok {platform : Platform} {server : Server}
    (checked : validateServer platform server = .ok ()) :
    (server.timeoutMs ≠ 0 ∧ ¬ server.timeoutMs > 120000) ∧
      validateFallbackIds server.id [] server.fallbackIds = .ok () := by
  rw [validateServer, bind_eq_ok] at checked
  obtain ⟨_, timeout, checked⟩ := checked
  rw [rejectIf_eq_ok, not_or] at timeout
  obtain ⟨_, _, protocols⟩ := bind_eq_ok.mp (ok_of_optional checked)
  obtain ⟨_, _, names⟩ := bind_eq_ok.mp (ok_of_optional protocols)
  exact ⟨timeout, ok_of_optional (ok_of_optional names)⟩

theorem ValidConfig.fallbackTable {platform : Platform} {config : Config}
    (valid : ValidConfig platform config) : FallbackTable config.servers := by
  have fallbacks (server : Server) (member : server ∈ config.servers) :=
    validateFallbackIds_eq_ok.mp
      (validateServer_eq_ok (valid.servers server member).checked).2
  exact
    { distinct := valid.distinct
      nonzero := fun server member =>
        ⟨(valid.servers server member).named.1, (fallbacks server member).1⟩
      unique := fun server member => (fallbacks server member).2.2.1
      other := fun server member => (fallbacks server member).2.1
      defined := by
        intro server member fallback listed
        obtain ⟨target, found⟩ :=
          Option.ne_none_iff_exists'.mp (valid.targets server member fallback listed)
        obtain ⟨inside, same⟩ := findServer_some found
        exact List.mem_map.mpr ⟨target, inside, same⟩ }

theorem validate_graph {platform : Platform} {config : Config}
    (accepted : validate platform config = .ok ()) :
    validateFallbackGraph config.servers = .ok () := by
  simp only [validate, bind_eq_ok] at accepted
  obtain ⟨_, _, _, _, _, _, _, _, _, _, _, _, _, _, _, _, _, graph, _⟩ := accepted
  exact graph

theorem validate_acyclic {platform : Platform} {config : Config}
    (accepted : validate platform config = .ok ()) (id : UInt32) :
    ¬ Relation.TransGen (FallbackEdge config.servers) id id := by
  have table := (validate_valid accepted).fallbackTable
  obtain ⟨result, walk, run⟩ :=
    validateFallbackGraph_walks (fallbacksOf_defined table.defined)
  have edges : Follows (fallbacksOf config.servers) = FallbackEdge config.servers := by
    funext id fallback
    exact propext (fallbackEdge_iff table.distinct)
  intro around
  have meets := (walk.none_iff fallbacksOf_whole).mpr ⟨id, edges ▸ around⟩
  rw [validate_graph accepted, meets] at run
  cases run

end NativeDNS
