/-
Depth-first traversals of a graph given by the list of followers of a node.

The nodes that are being entered and the nodes that are finished travel with
the traversal, as they do in a program that shares one pair of sets between
all its calls.
-/
import Mathlib.Data.List.Nodup
import Mathlib.Logic.Relation

namespace DepthFirst

variable {α : Type} {next : α → List α}

def Follows (next : α → List α) (node follower : α) : Prop :=
  follower ∈ next node

/-- Some nonempty path leads back to where it starts. -/
def HasCycle (next : α → List α) : Prop :=
  ∃ node, Relation.TransGen (Follows next) node node

/-! ### The cycle check -/

/-- A traversal of the nodes to do, with those being entered and those
finished before.  It ends with the nodes finished after it, or with nothing
when it meets a node that is being entered. -/
inductive Walks (next : α → List α) :
    List α → List α → List α → Option (List α) → Prop where
  | done {entered finished} : Walks next entered finished [] (some finished)
  | skips {entered finished node todo result} (old : node ∈ finished)
      (rest : Walks next entered finished todo result) :
      Walks next entered finished (node :: todo) result
  | meets {entered finished node todo} (fresh : node ∉ finished)
      (again : node ∈ entered) : Walks next entered finished (node :: todo) none
  | enters {entered finished node todo inner result} (fresh : node ∉ finished)
      (first : node ∉ entered)
      (below : Walks next (node :: entered) finished (next node) (some inner))
      (rest : Walks next entered (node :: inner) todo result) :
      Walks next entered finished (node :: todo) result
  | stops {entered finished node todo} (fresh : node ∉ finished)
      (first : node ∉ entered)
      (below : Walks next (node :: entered) finished (next node) none) :
      Walks next entered finished (node :: todo) none

theorem Walks.unique {entered finished todo : List α} {left right : Option (List α)}
    (one : Walks next entered finished todo left)
    (other : Walks next entered finished todo right) : left = right := by
  induction one generalizing right with
  | done =>
      cases other
      rfl
  | skips old _ ih =>
      cases other with
      | skips _ rest =>
          exact ih rest
      | meets fresh _ =>
          exact absurd old fresh
      | enters fresh _ _ _ =>
          exact absurd old fresh
      | stops fresh _ _ =>
          exact absurd old fresh
  | meets fresh again =>
      cases other with
      | skips old _ =>
          exact absurd old fresh
      | meets _ _ =>
          rfl
      | enters _ first _ _ =>
          exact absurd again first
      | stops _ first _ =>
          rfl
  | enters fresh first _ _ belowIh restIh =>
      cases other with
      | skips old _ =>
          exact absurd old fresh
      | meets _ again =>
          exact absurd again first
      | enters _ _ below rest =>
          cases belowIh below
          exact restIh rest
      | stops _ _ below =>
          cases belowIh below
  | stops fresh first _ ih =>
      cases other with
      | skips old _ =>
          exact absurd old fresh
      | meets _ _ =>
          rfl
      | enters _ _ below _ =>
          cases ih below
      | stops _ _ _ =>
          rfl

/-- When every entered node leads to every node to do, meeting an entered
node closes a cycle. -/
theorem Walks.cycle {entered finished todo : List α}
    (walk : Walks next entered finished todo none)
    (chain : ∀ opened ∈ entered, ∀ node ∈ todo,
      Relation.TransGen (Follows next) opened node) :
    HasCycle next := by
  generalize outcome : (none : Option (List α)) = result at walk
  induction walk with
  | done =>
      cases outcome
  | skips _ _ ih =>
      exact ih (fun opened member node inTodo =>
        chain opened member node (List.mem_cons_of_mem _ inTodo)) outcome
  | meets _ again =>
      exact ⟨_, chain _ again _ List.mem_cons_self⟩
  | enters _ _ _ _ _ restIh =>
      exact restIh (fun opened member node inTodo =>
        chain opened member node (List.mem_cons_of_mem _ inTodo)) outcome
  | stops _ _ _ ih =>
      refine ih (fun opened member follower isNext => ?_) rfl
      rcases List.mem_cons.mp member with rfl | older
      · exact Relation.TransGen.single isNext
      · exact (chain opened older _ List.mem_cons_self).tail isNext

/-- The finished nodes are closed under followers and lie on no cycle. -/
structure Finished (next : α → List α) (finished : List α) : Prop where
  closed : ∀ node ∈ finished, ∀ follower ∈ next node, follower ∈ finished
  acyclic : ∀ node ∈ finished, ¬ Relation.TransGen (Follows next) node node

theorem Finished.nil : Finished next [] where
  closed := fun _ member => absurd member List.not_mem_nil
  acyclic := fun _ member => absurd member List.not_mem_nil

theorem Finished.reaches {finished : List α} {node target : α}
    (done : Finished next finished) (member : node ∈ finished)
    (path : Relation.TransGen (Follows next) node target) : target ∈ finished := by
  induction path with
  | single step =>
      exact done.closed node member _ step
  | tail _ step ih =>
      exact done.closed _ ih _ step

theorem Finished.cons {finished : List α} {node : α}
    (done : Finished next finished)
    (followers : ∀ follower ∈ next node, follower ∈ finished) :
    Finished next (node :: finished) where
  closed := by
    intro other member follower isNext
    refine List.mem_cons_of_mem node ?_
    rcases List.mem_cons.mp member with rfl | older
    · exact followers follower isNext
    · exact done.closed other older follower isNext
  acyclic := by
    intro other member around
    have through : other ∈ finished := by
      rcases List.mem_cons.mp member with rfl | older
      · obtain ⟨follower, step, path⟩ := Relation.TransGen.head'_iff.mp around
        have inside := followers follower step
        rcases Relation.reflTransGen_iff_eq_or_transGen.mp path with same | further
        · exact same ▸ inside
        · exact done.reaches inside further
      · exact older
    exact done.acyclic other through around

/-- A traversal that ends keeps the invariant of the finished nodes and
finishes everything it had to do. -/
theorem Walks.finished {entered finished todo result : List α}
    (walk : Walks next entered finished todo (some result))
    (done : Finished next finished) :
    Finished next result ∧ (∀ node ∈ finished, node ∈ result) ∧
      ∀ node ∈ todo, node ∈ result := by
  generalize outcome : some result = outcome at walk
  induction walk generalizing result with
  | done =>
      cases outcome
      exact ⟨done, fun _ member => member,
        fun _ member => absurd member List.not_mem_nil⟩
  | skips old _ ih =>
      obtain ⟨after, kept, covered⟩ := ih done outcome
      exact ⟨after, kept, List.forall_mem_cons.mpr ⟨kept _ old, covered⟩⟩
  | meets _ _ =>
      cases outcome
  | enters _ _ _ _ belowIh restIh =>
      obtain ⟨inner, keptInner, followers⟩ := belowIh done rfl
      obtain ⟨after, kept, covered⟩ := restIh (inner.cons followers) outcome
      refine ⟨after, fun node member => ?_,
        List.forall_mem_cons.mpr ⟨kept _ List.mem_cons_self, covered⟩⟩
      exact kept node (List.mem_cons_of_mem _ (keptInner node member))
  | stops _ _ _ _ =>
      cases outcome

/-- Started afresh on all nodes that have followers, the traversal meets an
entered node exactly when there is a cycle. -/
theorem Walks.none_iff {nodes : List α} {result : Option (List α)}
    (walk : Walks next [] [] nodes result)
    (whole : ∀ node, next node ≠ [] → node ∈ nodes) :
    result = none ↔ HasCycle next := by
  constructor
  · rintro rfl
    exact walk.cycle fun _ member => absurd member List.not_mem_nil
  · rintro ⟨node, around⟩
    cases result with
    | none =>
        rfl
    | some result =>
        obtain ⟨done, _, covered⟩ := walk.finished Finished.nil
        obtain ⟨follower, step, _⟩ := Relation.TransGen.head'_iff.mp around
        exact absurd around (done.acyclic node
          (covered node (whole node (List.ne_nil_of_mem step))))

/-! ### Collecting what can be reached -/

section Collecting

variable {κ : Type} {key : α → κ}

/-- A traversal that lists each node before its followers and takes no second
node with the key of a listed one. -/
inductive Collects (key : α → κ) (next : α → List α) :
    List α → List α → List α → Prop where
  | done {listed} : Collects key next listed [] listed
  | skips {listed node todo result} (known : key node ∈ listed.map key)
      (rest : Collects key next listed todo result) :
      Collects key next listed (node :: todo) result
  | takes {listed node todo below result} (fresh : key node ∉ listed.map key)
      (followers : Collects key next (listed ++ [node]) (next node) below)
      (rest : Collects key next below todo result) :
      Collects key next listed (node :: todo) result

theorem Collects.unique {listed todo left right : List α}
    (one : Collects key next listed todo left)
    (other : Collects key next listed todo right) : left = right := by
  induction one generalizing right with
  | done =>
      cases other
      rfl
  | skips known _ ih =>
      cases other with
      | skips _ rest =>
          exact ih rest
      | takes fresh _ _ =>
          exact absurd known fresh
  | takes fresh _ _ followersIh restIh =>
      cases other with
      | skips known _ =>
          exact absurd known fresh
      | takes _ followers rest =>
          cases followersIh followers
          exact restIh rest

theorem Collects.kept {listed todo result : List α}
    (run : Collects key next listed todo result) :
    ∀ node ∈ listed, node ∈ result := by
  induction run with
  | done =>
      exact fun _ member => member
  | skips _ _ ih =>
      exact ih
  | takes _ _ _ followersIh restIh =>
      exact fun node member =>
        restIh node (followersIh node (List.mem_append_left _ member))

theorem Collects.nodup {listed todo result : List α}
    (run : Collects key next listed todo result)
    (distinct : (listed.map key).Nodup) : (result.map key).Nodup := by
  induction run with
  | done =>
      exact distinct
  | skips _ _ ih =>
      exact ih distinct
  | takes fresh _ _ followersIh restIh =>
      refine restIh (followersIh ?_)
      rw [List.map_append, List.map_singleton]
      exact List.nodup_append.mpr ⟨distinct, List.nodup_singleton _,
        fun _ inListed _ isNode same =>
          fresh (List.mem_singleton.mp isNode ▸ same ▸ inListed)⟩

/-- What the nodes to do satisfy and followers inherit, the listed nodes
satisfy. -/
theorem Collects.forall {holds : α → Prop} {listed todo result : List α}
    (run : Collects key next listed todo result)
    (inherited : ∀ node, holds node → ∀ follower ∈ next node, holds follower)
    (before : ∀ node ∈ listed, holds node) (start : ∀ node ∈ todo, holds node) :
    ∀ node ∈ result, holds node := by
  induction run with
  | done =>
      exact before
  | skips _ _ ih =>
      exact ih before (List.forall_mem_cons.mp start).2
  | takes _ _ _ followersIh restIh =>
      obtain ⟨here, later⟩ := List.forall_mem_cons.mp start
      refine restIh (followersIh ?_ (inherited _ here)) later
      intro node member
      rcases List.mem_append.mp member with old | new
      · exact before node old
      · exact List.mem_singleton.mp new ▸ here

theorem Collects.covers {listed todo result : List α}
    (run : Collects key next listed todo result) :
    (∀ node ∈ todo, key node ∈ result.map key) ∧
      ∀ node ∈ result, node ∈ listed ∨
        ∀ follower ∈ next node, key follower ∈ result.map key := by
  have keptKeys {listed todo result : List α}
      (run : Collects key next listed todo result) {value : κ}
      (member : value ∈ listed.map key) : value ∈ result.map key := by
    obtain ⟨node, inside, rfl⟩ := List.mem_map.mp member
    exact List.mem_map_of_mem (run.kept node inside)
  induction run with
  | done =>
      exact ⟨fun _ member => absurd member List.not_mem_nil,
        fun _ member => Or.inl member⟩
  | skips known rest ih =>
      exact ⟨List.forall_mem_cons.mpr ⟨keptKeys rest known, ih.1⟩, ih.2⟩
  | takes _ followers rest followersIh restIh =>
      refine ⟨List.forall_mem_cons.mpr ⟨?_, restIh.1⟩, fun other member => ?_⟩
      · exact keptKeys rest (keptKeys followers (List.mem_map_of_mem
          (List.mem_append_right _ List.mem_cons_self)))
      · rcases restIh.2 other member with below | covered
        · rcases followersIh.2 other below with old | covered
          · rcases List.mem_append.mp old with older | new
            · exact Or.inl older
            · rw [List.mem_singleton.mp new]
              exact Or.inr fun follower isNext =>
                keptKeys rest (followersIh.1 follower isNext)
          · exact Or.inr fun follower isNext =>
              keptKeys rest (covered follower isNext)
        · exact Or.inr covered

end Collecting

end DepthFirst
