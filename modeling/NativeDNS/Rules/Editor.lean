/-
Editing a configuration.

Every operation edits a copy and commits it when the copy is valid.  Iterators
are positions: using one beyond the list is a fault of its own, so that it can
be shown not to happen.
-/
import NativeDNS.Library.Positions
import NativeDNS.Library.Throwing
import NativeDNS.Library.Transition
import NativeDNS.Rules.Totality

namespace NativeDNS

open ByteText (text)
open CheckedResult
open Positions (swapAt)
open Throwing (attempt Ends)

inductive EditFault where
  | thrown (error : Error)
  | outOfRange
  deriving DecidableEq

abbrev EditorM := EStateM EditFault Config

inductive ConfigEdit where
  | addRule (rule : Rule)
  | updateRule (rule : Rule)
  | removeRule (id : UInt32)
  | moveRule (id : UInt32) (direction : Int)
  | cloneRule (sourceId newId : UInt32)
  | addServer (server : Server)
  | updateServer (server : Server)
  | removeServer (id : UInt32)

/-! ### The edited copies -/

abbrev Edited := Except EditFault Config

def refused (code message : String) : Edited :=
  .error (.thrown (.of code message))

def addedRule (rule : Rule) (next : Config) : Edited :=
  if next.rules = [] then .error .outOfRange
  else
    .ok { next with rules := next.rules.insertIdx (next.rules.length - 1) rule }

def updatedRule (rule : Rule) (next : Config) : Edited :=
  let it := next.rules.findIdx (·.id == rule.id)
  if it = next.rules.length then
    refused "RULE_ID" "Rule not found or Default identity changed"
  else
    match next.rules[it]? with
    | none => .error .outOfRange
    | some found =>
        if found.isDefault ≠ rule.isDefault then
          refused "RULE_ID" "Rule not found or Default identity changed"
        else .ok { next with rules := next.rules.set it rule }

def removedRule (id : UInt32) (next : Config) : Edited :=
  let it := next.rules.findIdx (·.id == id)
  if it = next.rules.length then
    refused "DEFAULT" "Cannot remove missing/Default rule"
  else
    match next.rules[it]? with
    | none => .error .outOfRange
    | some found =>
        if found.isDefault = true then
          refused "DEFAULT" "Cannot remove missing/Default rule"
        else .ok { next with rules := next.rules.eraseIdx it }

/-- `std::iter_swap(it, it + direction)`. -/
def swappedRules (it : Nat) (direction : Int) (next : Config) : Edited :=
  if it + direction < 0 then .error .outOfRange
  else
    match swapAt next.rules it (it + direction).toNat with
    | none => .error .outOfRange
    | some rules => .ok { next with rules := rules }

def movedRule (id : UInt32) (direction : Int) (next : Config) : Edited :=
  let it := next.rules.findIdx (·.id == id)
  if direction ≠ -1 ∧ direction ≠ 1 then
    refused "ORDER" "Direction must be -1 or 1"
  else if it = next.rules.length then
    refused "ORDER" "Cannot move rule beyond ordered boundary"
  else
    match next.rules[it]? with
    | none => .error .outOfRange
    | some found =>
        if found.isDefault = true ∨ direction < 0 ∧ it = 0 then
          refused "ORDER" "Cannot move rule beyond ordered boundary"
        else if direction > 0 then
          match next.rules[it + 1]? with
          | none => .error .outOfRange
          | some following =>
              if following.isDefault = true then
                refused "ORDER" "Cannot move rule beyond ordered boundary"
              else swappedRules it direction next
        else swappedRules it direction next

def clonedRule (newId : UInt32) (source : Rule) : Rule :=
  { source with
    id := newId
    isDefault := false
    name := source.name ++ text " (copy)" }

def addedClone (sourceId newId : UInt32) (next : Config) : Edited :=
  let it := next.rules.findIdx (·.id == sourceId)
  if it = next.rules.length then refused "RULE_ID" "Rule not found"
  else
    match next.rules[it]? with
    | none => .error .outOfRange
    | some source => addedRule (clonedRule newId source) next

def addedServer (server : Server) (next : Config) : Edited :=
  .ok { next with servers := next.servers ++ [server] }

def updatedServer (server : Server) (next : Config) : Edited :=
  let it := next.servers.findIdx (·.id == server.id)
  if it = next.servers.length then refused "SERVER_ID" "Server not found"
  else .ok { next with servers := next.servers.set it server }

/-- `std::erase_if`, which tells how many servers it erased. -/
def removedServer (id : UInt32) (next : Config) : Edited :=
  let kept := next.servers.filter (·.id != id)
  if next.servers.length - kept.length = 0 then
    refused "SERVER_ID" "Server not found"
  else .ok { next with servers := kept }

def ConfigEdit.next : ConfigEdit → Config → Edited
  | .addRule rule => addedRule rule
  | .updateRule rule => updatedRule rule
  | .removeRule id => removedRule id
  | .moveRule id direction => movedRule id direction
  | .cloneRule sourceId newId => addedClone sourceId newId
  | .addServer server => addedServer server
  | .updateServer server => updatedServer server
  | .removeServer id => removedServer id

/-! ### The editor -/

section Editor

variable (platform : Platform)

def commit (next : Config) : EditorM Unit := do
  attempt ((validate platform next).mapError .thrown)
  set next

def editConfig (edit : ConfigEdit) : EditorM Unit := do
  let config ← get
  let next ← attempt (edit.next config)
  commit platform next

def performEdit (config : Config) (edit : ConfigEdit) : Config :=
  match editConfig platform edit config with
  | .ok _ after => after
  | .error _ after => after

/-- The configurations of an editor that was given a valid one. -/
abbrev EditReached : Config → Prop :=
  Transition.Reachable (fun config => validate platform config = .ok ())
    fun before after => ∃ edit, after = performEdit platform before edit

/-! ### What an operation may do -/

inductive EditChange : ConfigEdit → Config → Config → Prop
  | addRule {config : Config} {front : List Rule} {last rule : Rule}
      (rules : config.rules = front ++ [last]) :
      EditChange (.addRule rule) config
        { config with rules := front ++ [rule, last] }
  | updateRule {config : Config} {before behind : List Rule} {old rule : Rule}
      (rules : config.rules = before ++ old :: behind)
      (same : old.id = rule.id) :
      EditChange (.updateRule rule) config
        { config with rules := before ++ rule :: behind }
  | removeRule {config : Config} {before behind : List Rule} {old : Rule}
      (rules : config.rules = before ++ old :: behind) :
      EditChange (.removeRule old.id) config
        { config with rules := before ++ behind }
  | moveDown {config : Config} {before behind : List Rule} {first second : Rule}
      (rules : config.rules = before ++ first :: second :: behind) :
      EditChange (.moveRule first.id 1) config
        { config with rules := before ++ second :: first :: behind }
  | moveUp {config : Config} {before behind : List Rule} {first second : Rule}
      (rules : config.rules = before ++ first :: second :: behind) :
      EditChange (.moveRule second.id (-1)) config
        { config with rules := before ++ second :: first :: behind }
  | cloneRule {config : Config} {front : List Rule} {source last : Rule}
      {newId : UInt32} (member : source ∈ config.rules)
      (rules : config.rules = front ++ [last]) :
      EditChange (.cloneRule source.id newId) config
        { config with rules := front ++ [clonedRule newId source, last] }
  | addServer {config : Config} {server : Server} :
      EditChange (.addServer server) config
        { config with servers := config.servers ++ [server] }
  | updateServer {config : Config} {before behind : List Server}
      {old server : Server} (servers : config.servers = before ++ old :: behind)
      (same : old.id = server.id) :
      EditChange (.updateServer server) config
        { config with servers := before ++ server :: behind }
  | removeServer {config : Config} {before behind : List Server} {old : Server}
      (servers : config.servers = before ++ old :: behind) :
      EditChange (.removeServer old.id) config
        { config with servers := before ++ behind }

/-- A valid configuration: one enabled Default that matches all stands last,
and every server that is referred to exists. -/
structure SoundConfig (config : Config) : Prop where
  accepted : validate platform config = .ok ()
  defaultLast : ∃ front last, config.rules = front ++ [last] ∧
    last.isDefault = true ∧ last.enabled = true ∧ last.patterns = [text "*"] ∧
    ∀ rule ∈ front, rule.isDefault = false
  selected : ∀ rule ∈ config.rules, rule.serverId ≠ 0 →
    ∃ server ∈ config.servers, server.id = rule.serverId
  fallbacks : ∀ server ∈ config.servers, ∀ fallback ∈ server.fallbackIds,
    ∃ other ∈ config.servers, other.id = fallback

/-- The end of an operation on a valid configuration. -/
def Transactional (config : Config) (edit : ConfigEdit) : Prop :=
  Ends (editConfig platform edit) config
    (fun _ after => SoundConfig platform after ∧ EditChange edit config after ∧
      ∀ id direction, edit = .moveRule id direction →
        editConfig platform (.moveRule id (-direction)) after = .ok () config)
    (fun fault after => after = config ∧ ∃ error, fault = .thrown error)

end Editor

/-! ### The edited copies of a valid configuration -/

/-- An edited copy as foreseen, or a checked error. -/
def Foreseen (edited : Edited) (change : Config → Prop) : Prop :=
  match edited with
  | .ok next => change next
  | .error fault => ∃ error, fault = .thrown error

section Copies

variable {config : Config}

theorem refused_foreseen {code message : String} {change : Config → Prop} :
    Foreseen (refused code message) change :=
  ⟨.of code message, rfl⟩

theorem Foreseen.weaken {edited : Edited} {change other : Config → Prop}
    (foreseen : Foreseen edited change) (holds : ∀ next, change next → other next) :
    Foreseen edited other := by
  cases edited with
  | ok next =>
      exact holds next foreseen
  | error fault =>
      exact foreseen

theorem addedRule_foreseen (rule : Rule) {front : List Rule} {last : Rule}
    (rules : config.rules = front ++ [last]) :
    Foreseen (addedRule rule config) fun next =>
      next = { config with rules := front ++ [rule, last] } := by
  have nonempty : config.rules ≠ [] := by
    rw [rules]
    exact List.append_ne_nil_of_right_ne_nil _ (List.cons_ne_nil _ _)
  unfold addedRule
  rw [if_neg nonempty, rules, List.length_append, List.length_singleton,
    Nat.add_sub_cancel, Positions.insertIdx_split]
  rfl

theorem findRule (id : UInt32) (rules : List Rule) :
    rules.findIdx (·.id == id) = rules.length ∨
      ∃ before old behind,
        Positions.First (fun rule : Rule => rule.id == id) rules before old behind :=
  Positions.findIdx_first _ _

theorem updatedRule_foreseen (rule : Rule) :
    Foreseen (updatedRule rule config) (EditChange (.updateRule rule) config) := by
  unfold updatedRule
  dsimp only
  rcases findRule rule.id config.rules with atEnd | ⟨before, old, behind, first⟩
  · rw [if_pos atEnd]
    exact refused_foreseen
  · rw [if_neg first.inside, first.deref]
    dsimp only
    split
    · exact refused_foreseen
    · rw [first.place, first.split, Positions.set_split]
      exact .updateRule first.split (beq_iff_eq.mp first.here)

theorem removedRule_foreseen (id : UInt32) :
    Foreseen (removedRule id config) (EditChange (.removeRule id) config) := by
  unfold removedRule
  dsimp only
  rcases findRule id config.rules with atEnd | ⟨before, old, behind, first⟩
  · rw [if_pos atEnd]
    exact refused_foreseen
  · rw [if_neg first.inside, first.deref]
    dsimp only
    split
    · exact refused_foreseen
    · rw [first.place, first.split, Positions.eraseIdx_split,
        ← beq_iff_eq.mp first.here]
      exact .removeRule first.split

theorem addedClone_foreseen (sourceId newId : UInt32) {front : List Rule}
    {last : Rule} (rules : config.rules = front ++ [last]) :
    Foreseen (addedClone sourceId newId config)
      (EditChange (.cloneRule sourceId newId) config) := by
  unfold addedClone
  dsimp only
  rcases findRule sourceId config.rules with atEnd | ⟨before, source, behind, first⟩
  · rw [if_pos atEnd]
    exact refused_foreseen
  · rw [if_neg first.inside, first.deref]
    dsimp only
    have member : source ∈ config.rules := by
      rw [first.split]
      exact List.mem_append_right _ List.mem_cons_self
    refine (addedRule_foreseen (clonedRule newId source) rules).weaken ?_
    rintro next rfl
    rw [← beq_iff_eq.mp first.here]
    exact .cloneRule member rules

theorem updatedServer_foreseen (server : Server) :
    Foreseen (updatedServer server config)
      (EditChange (.updateServer server) config) := by
  unfold updatedServer
  dsimp only
  rcases Positions.findIdx_first (fun other : Server => other.id == server.id)
    config.servers with atEnd | ⟨before, old, behind, first⟩
  · rw [if_pos atEnd]
    exact refused_foreseen
  · rw [if_neg first.inside, first.place, first.split, Positions.set_split]
    exact .updateServer first.split (beq_iff_eq.mp first.here)

theorem removedServer_foreseen (id : UInt32)
    (distinct : (config.servers.map (·.id)).Nodup) :
    Foreseen (removedServer id config)
      (EditChange (.removeServer id) config) := by
  unfold removedServer
  dsimp only
  rcases Positions.findIdx_first (fun other : Server => other.id == id)
    config.servers with atEnd | ⟨before, old, behind, first⟩
  · have all : config.servers.filter (·.id != id) = config.servers := by
      refine List.filter_eq_self.mpr ?_
      intro server member
      have other := List.findIdx_eq_length.mp atEnd server member
      rw [bne, other]
      rfl
    rw [all, Nat.sub_self, if_pos rfl]
    exact refused_foreseen
  · have same : old.id = id := beq_iff_eq.mp first.here
    rw [first.split, List.map_append, List.map_cons] at distinct
    have apart := (List.nodup_cons.mp (List.nodup_append.mp distinct).2.1).1
    have front : before.filter (·.id != id) = before := by
      refine List.filter_eq_self.mpr ?_
      intro server member
      rw [bne, first.earlier server member]
      rfl
    have back : behind.filter (·.id != id) = behind := by
      refine List.filter_eq_self.mpr ?_
      intro server member
      refine bne_iff_ne.mpr ?_
      intro equal
      exact apart (List.mem_map.mpr ⟨server, member, equal.trans same.symm⟩)
    have kept : config.servers.filter (·.id != id) = before ++ behind := by
      rw [first.split, List.filter_append, front,
        List.filter_cons_of_neg (by rw [same, bne_self_eq_false]; exact Bool.false_ne_true),
        back]
    have erased : config.servers.length - (before ++ behind).length ≠ 0 := by
      rw [first.split, List.length_append, List.length_append, List.length_cons]
      omega
    rw [kept, if_neg erased, ← same]
    exact .removeServer first.split

theorem swappedRules_down {before behind : List Rule} {one other : Rule}
    (rules : config.rules = before ++ one :: other :: behind) :
    swappedRules before.length 1 config =
      .ok { config with rules := before ++ other :: one :: behind } := by
  unfold swappedRules
  have place : ((before.length : Int) + 1).toNat = before.length + 1 := by omega
  rw [if_neg (by omega), place, rules, Positions.swapAt_next]

theorem swappedRules_up {before behind : List Rule} {one other : Rule}
    (rules : config.rules = before ++ one :: other :: behind) :
    swappedRules (before.length + 1) (-1) config =
      .ok { config with rules := before ++ other :: one :: behind } := by
  unfold swappedRules
  have place : (((before.length + 1 : Nat) : Int) + -1).toNat = before.length := by
    omega
  rw [if_neg (by omega), place, rules, Positions.swapAt_previous]

theorem movedRule_foreseen (id : UInt32) (direction : Int) {front : List Rule}
    {last : Rule} (rules : config.rules = front ++ [last])
    (isDefault : last.isDefault = true) :
    Foreseen (movedRule id direction config)
      (EditChange (.moveRule id direction) config) := by
  unfold movedRule
  dsimp only
  by_cases wrong : direction ≠ -1 ∧ direction ≠ 1
  · rw [if_pos wrong]
    exact refused_foreseen
  · rw [if_neg wrong]
    rcases findRule id config.rules with atEnd | ⟨before, found, behind, first⟩
    · rw [if_pos atEnd]
      exact refused_foreseen
    · rw [if_neg first.inside, first.deref]
      dsimp only
      by_cases boundary : found.isDefault = true ∨
          direction < 0 ∧ config.rules.findIdx (·.id == id) = 0
      · rw [if_pos boundary]
        exact refused_foreseen
      · rw [if_neg boundary, first.place]
        rw [first.place] at boundary
        have plain : found.isDefault = false :=
          Bool.eq_false_iff.mpr fun isDefault => boundary (Or.inl isDefault)
        have named : found.id = id := beq_iff_eq.mp first.here
        by_cases down : direction > 0
        · have one : direction = 1 := by omega
          rw [if_pos down, one]
          cases behind with
          | nil =>
              have split := first.split
              rw [rules] at split
              obtain ⟨_, same⟩ := List.append_inj' split rfl
              rw [← (List.cons.inj same).1, isDefault] at plain
              cases plain
          | cons following rest =>
              have split := first.split
              have next : config.rules[before.length + 1]? = some following := by
                rw [split]
                exact Positions.getElem?_next
              rw [next]
              dsimp only
              by_cases lastOne : following.isDefault = true
              · rw [if_pos lastOne]
                exact refused_foreseen
              · rw [if_neg lastOne, swappedRules_down split, ← named]
                exact .moveDown split
        · have one : direction = -1 := by omega
          rw [if_neg down, one]
          rcases List.eq_nil_or_concat before with empty | ⟨init, previous, whole⟩
          · refine absurd (Or.inr ⟨by omega, ?_⟩) boundary
            rw [empty]
            rfl
          · have split := first.split
            rw [whole, List.concat_eq_append, List.append_assoc,
              List.singleton_append] at split
            have length : before.length = init.length + 1 := by
              rw [whole, List.length_concat]
            rw [length, swappedRules_up split, ← named]
            exact .moveUp split

theorem firstRule {before behind : List Rule} {rule : Rule}
    (rules : config.rules = before ++ rule :: behind)
    (distinct : (config.rules.map (·.id)).Nodup) :
    Positions.First (fun other : Rule => other.id == rule.id) config.rules before
      rule behind where
  split := rules
  here := beq_self_eq_true _
  earlier := by
    intro other member
    rw [rules, List.map_append, List.map_cons] at distinct
    have apart := (List.nodup_append.mp distinct).2.2 other.id
      (List.mem_map_of_mem member) rule.id List.mem_cons_self
    exact beq_eq_false_iff_ne.mpr apart

section Neighbours

variable {before behind : List Rule} {one other : Rule}

theorem movedRule_down (rules : config.rules = before ++ one :: other :: behind)
    (distinct : (config.rules.map (·.id)).Nodup)
    (plainOne : one.isDefault = false) (plainOther : other.isDefault = false) :
    movedRule one.id 1 config =
      .ok { config with rules := before ++ other :: one :: behind } := by
  have first := firstRule rules distinct
  have next : config.rules[before.length + 1]? = some other := by
    rw [rules]
    exact Positions.getElem?_next
  unfold movedRule
  dsimp only
  rw [if_neg (by omega), if_neg first.inside, first.deref]
  dsimp only
  rw [if_neg, if_pos (by omega), first.place, next]
  · dsimp only
    rw [plainOther, if_neg Bool.false_ne_true, swappedRules_down rules]
  · rw [plainOne]
    rintro (impossible | ⟨negative, _⟩)
    · cases impossible
    · omega

theorem movedRule_up (rules : config.rules = before ++ one :: other :: behind)
    (distinct : (config.rules.map (·.id)).Nodup)
    (plainOther : other.isDefault = false) :
    movedRule other.id (-1) config =
      .ok { config with rules := before ++ other :: one :: behind } := by
  have split : config.rules = (before ++ [one]) ++ other :: behind := by
    rw [rules, List.append_assoc, List.singleton_append]
  have first := firstRule split distinct
  have place := first.place
  rw [List.length_append, List.length_singleton] at place
  unfold movedRule
  dsimp only
  rw [if_neg (by omega), if_neg first.inside, first.deref]
  dsimp only
  rw [if_neg, if_neg (by omega), place, swappedRules_up rules]
  rw [plainOther, place]
  rintro (impossible | ⟨_, begins⟩)
  · cases impossible
  · omega

end Neighbours

end Copies

/-! ### Validity -/

section Validity

variable {platform : Platform} {config : Config}

theorem validateRules_distinct {servers : List UInt32} {rules : List Rule}
    {ids : List UInt32} (run : validateRules servers ids rules = .ok ()) :
    (rules.map (·.id)).Nodup ∧ ∀ rule ∈ rules, rule.id ∉ ids := by
  induction rules generalizing ids with
  | nil =>
      refine ⟨List.nodup_nil, ?_⟩
      intro rule member
      cases member
  | cons rule rest ih =>
      simp only [validateRules, bind_eq_ok, rejectIf_eq_ok, not_or] at run
      obtain ⟨_, ⟨_, fresh, _⟩, _, _, tail⟩ := run
      obtain ⟨distinct, apart⟩ := ih tail
      refine ⟨?_, ?_⟩
      · rw [List.map_cons, List.nodup_cons]
        refine ⟨?_, distinct⟩
        intro member
        obtain ⟨other, inRest, same⟩ := List.mem_map.mp member
        refine apart other inRest ?_
        rw [same]
        exact List.mem_cons_self
      · intro other member
        rcases List.mem_cons.mp member with same | later
        · rw [same]
          exact fresh
        · intro known
          exact apart other later (List.mem_cons_of_mem _ known)

theorem validate_ruleIds (accepted : validate platform config = .ok ()) :
    (config.rules.map (·.id)).Nodup := by
  simp only [validate, bind_eq_ok] at accepted
  obtain ⟨_, _, _, _, _, _, _, _, _, _, _, _, ids, _, _, _, _, _, rules⟩ := accepted
  exact (validateRules_distinct rules).1

theorem validate_sound (accepted : validate platform config = .ok ()) :
    SoundConfig platform config := by
  have valid := validate_valid accepted
  refine ⟨accepted, valid.default, ?_, ?_⟩
  · intro rule member selected
    obtain ⟨server, known, same⟩ :=
      List.mem_map.mp ((valid.rules rule member).reference selected).2
    exact ⟨server, known, same⟩
  · intro server member fallback listed
    obtain ⟨other, found⟩ :=
      Option.ne_none_iff_exists'.mp (valid.targets server member fallback listed)
    exact ⟨other, findServer_some found⟩

theorem next_foreseen (accepted : validate platform config = .ok ())
    (edit : ConfigEdit) :
    Foreseen (edit.next config) (EditChange edit config) := by
  have valid := validate_valid accepted
  obtain ⟨front, last, rules, isDefault, _, _, _⟩ := valid.default
  cases edit with
  | addRule rule =>
      refine (addedRule_foreseen rule rules).weaken ?_
      rintro next rfl
      exact .addRule rules
  | updateRule rule =>
      exact updatedRule_foreseen rule
  | removeRule id =>
      exact removedRule_foreseen id
  | moveRule id direction =>
      exact movedRule_foreseen id direction rules isDefault
  | cloneRule sourceId newId =>
      exact addedClone_foreseen sourceId newId rules
  | addServer server =>
      exact .addServer
  | updateServer server =>
      exact updatedServer_foreseen server
  | removeServer id =>
      exact removedServer_foreseen id valid.distinct

theorem plain_of_next (accepted : validate platform config = .ok ())
    {before behind : List Rule} {one other : Rule}
    (rules : config.rules = before ++ one :: other :: behind) :
    one.isDefault = false := by
  obtain ⟨front, last, shape, _, _, _, plain⟩ := (validate_valid accepted).default
  obtain ⟨init, final, tail⟩ : ∃ init final, other :: behind = init ++ [final] := by
    refine ⟨(other :: behind).dropLast, (other :: behind).getLast (List.cons_ne_nil _ _), ?_⟩
    exact (List.dropLast_append_getLast _).symm
  rw [rules, tail, ← List.cons_append, ← List.append_assoc] at shape
  obtain ⟨sameFront, _⟩ := List.append_inj' shape rfl
  refine plain one ?_
  rw [← sameFront]
  exact List.mem_append_right _ List.mem_cons_self

theorem editConfig_of_next {edit : ConfigEdit} {next : Config}
    (copied : edit.next config = .ok next)
    (accepted : validate platform next = .ok ()) :
    editConfig platform edit config = .ok () next := by
  change (attempt (edit.next config) >>= commit platform) config = _
  rw [copied]
  change (attempt ((validate platform next).mapError EditFault.thrown) >>=
    fun _ => set next) config = _
  rw [accepted]
  rfl

theorem moved_back {id : UInt32} {direction : Int} {next : Config}
    (accepted : validate platform config = .ok ())
    (acceptedNext : validate platform next = .ok ())
    (change : EditChange (.moveRule id direction) config next) :
    editConfig platform (.moveRule id (-direction)) next = .ok () config := by
  have distinct := validate_ruleIds acceptedNext
  cases change with
  | @moveDown _ before behind one other rules =>
      refine editConfig_of_next ?_ accepted
      have plain := plain_of_next accepted rules
      have back := @movedRule_up
        { config with rules := before ++ other :: one :: behind } before behind
        other one rfl distinct plain
      rw [← rules] at back
      exact back
  | @moveUp _ before behind one other rules =>
      refine editConfig_of_next ?_ accepted
      have plain := plain_of_next accepted rules
      have plainNext := plain_of_next acceptedNext rfl
      have back := @movedRule_down
        { config with rules := before ++ other :: one :: behind } before behind
        other one rfl distinct plainNext plain
      rw [← rules] at back
      exact back

theorem editConfig_transactional (accepted : validate platform config = .ok ())
    (edit : ConfigEdit) : Transactional platform config edit := by
  have foreseen := next_foreseen accepted edit
  unfold Transactional editConfig
  refine Ends.reading (Ends.checking ?_ ?_)
  · intro fault failed
    rw [failed] at foreseen
    exact ⟨rfl, foreseen⟩
  · intro next copied
    rw [copied] at foreseen
    refine Ends.checking ?_ ?_
    · intro fault failed
      refine ⟨rfl, ?_⟩
      cases valid : validate platform next with
      | ok _ =>
          rw [valid] at failed
          cases failed
      | error error =>
          rw [valid] at failed
          cases failed
          exact ⟨error, rfl⟩
    · intro _ checked
      have acceptedNext : validate platform next = .ok () := by
        cases valid : validate platform next with
        | ok _ =>
            rfl
        | error error =>
            rw [valid] at checked
            cases checked
      refine ⟨validate_sound acceptedNext, foreseen, ?_⟩
      rintro id direction rfl
      exact moved_back accepted acceptedNext foreseen

end Validity

/-- From a valid configuration on, every sequence of operations leaves valid
configurations, in which one enabled Default that matches all is last and every
server referred to exists.  An operation that throws changes nothing and throws
a checked error, and one that succeeds changes its target alone. -/
theorem editReached_transactional {platform : Platform} {config : Config}
    (reached : EditReached platform config) :
    SoundConfig platform config ∧ ∀ edit, Transactional platform config edit := by
  have accepted : validate platform config = .ok () := by
    induction reached with
    | start valid =>
        exact valid
    | @next before after _ moved ih =>
        obtain ⟨edit, performed⟩ := moved
        have ends := editConfig_transactional ih edit
        unfold Transactional Ends at ends
        unfold performEdit at performed
        rw [performed]
        cases ran : editConfig platform edit before with
        | ok _ edited =>
            rw [ran] at ends
            exact ends.1.accepted
        | error fault kept =>
            rw [ran] at ends
            dsimp only at ends ⊢
            rw [ends.1]
            exact ih
  exact ⟨validate_sound accepted, editConfig_transactional accepted⟩

/-- Two copies of the Default, swapped; the Default itself stays. -/
def cloningEdits : List ConfigEdit :=
  [.cloneRule 1 2, .cloneRule 2 3, .moveRule 2 1, .removeRule 1]

theorem editReached_transactional_clones :
    ∃ config, config = cloningEdits.foldl (performEdit ipv4Platform) defaultConfig ∧
      config.rules.map (·.id) = [3, 2, 1] ∧ SoundConfig ipv4Platform config ∧
      ∀ edit, Transactional ipv4Platform config edit := by
  refine ⟨_, rfl, by decide +kernel, ?_⟩
  refine editReached_transactional ?_
  exact .next (.next (.next (.next
    (.start (defaultConfig_accepted ipv4Platform)) ⟨.cloneRule 1 2, rfl⟩)
      ⟨.cloneRule 2 3, rfl⟩) ⟨.moveRule 2 1, rfl⟩) ⟨.removeRule 1, rfl⟩

end NativeDNS
