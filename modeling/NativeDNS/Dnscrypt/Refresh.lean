/-
Certificate refresh is single-flight and keeps to the validity window.

A call that refreshes a key is the only one that does so, its flag is set
exactly as long, and what a call returns was authenticated for its provider and
valid at a system time the call itself has read.
-/
import NativeDNS.Dnscrypt.CertificateKey

namespace NativeDNS

open CheckedResult

/-- A certificate signed with the provider key of a server. -/
def Trusted (verify : SignatureCheck) (server : Server)
    (certificate : DnsCryptCertificate) : Prop :=
  ∃ providerKey, parseDnscryptProviderKey server.publicKey = .ok providerKey ∧
    Authenticated verify providerKey certificate

/-- A certificate within its window at one of the times read. -/
def ValidDuring (times : List Nat) (certificate : DnsCryptCertificate) : Prop :=
  ∃ time ∈ times, certificate.validFrom ≤ time ∧ time < certificate.validUntil

def LoadPhase.certificate : LoadPhase → Option DnsCryptCertificate
  | .leading _ current => current
  | .fetching _ current _ => current
  | .leaving _ (.ok certificate) => some certificate
  | .finished (.ok certificate) => some certificate
  | _ => none

def CertificateWorld.stored (world : CertificateWorld) (id : Nat) :
    Option DnsCryptCertificate :=
  (world.state id).certificate

theorem validDuring_of_validAt {times : List Nat} {time : Nat}
    {certificate : DnsCryptCertificate} (member : time ∈ times)
    (valid : certificate.validAt time = true) : ValidDuring times certificate := by
  obtain ⟨started, notEnded⟩ := Bool.and_eq_true_iff.mp valid
  exact ⟨time, member, of_decide_eq_true started, of_decide_eq_true notEnded⟩

theorem ValidDuring.append {times : List Nat} {certificate : DnsCryptCertificate}
    (valid : ValidDuring times certificate) (more : List Nat) :
    ValidDuring (times ++ more) certificate := by
  obtain ⟨time, member, window⟩ := valid
  exact ⟨time, List.mem_append_left more member, window⟩

/-! ### The invariant -/

structure CallSound (verify : SignatureCheck) (entries : List (Bytes × Nat))
    (call : LoadCall) : Prop where
  admitted : AdmittedServer call.server
  held : ∀ id, call.phase.held = some id → (certificateKey call.server, id) ∈ entries
  vouched : ∀ certificate, call.phase.certificate = some certificate →
    Trusted verify call.server certificate ∧ ValidDuring call.times certificate
  clock : ∀ id current now, call.phase = .fetching id current now →
    now ∈ call.times

structure CacheSound (verify : SignatureCheck) (world : CertificateWorld) :
    Prop where
  keys : (world.entries.map Prod.fst).Nodup
  ids : (world.entries.map Prod.snd).Nodup
  stored : ∀ entry ∈ world.entries, entry.2 < world.states.length
  bounded : world.entries.length ≤ maxCertificates
  trusted : ∀ entry ∈ world.entries, ∀ certificate,
    world.stored entry.2 = some certificate →
    ∀ server, AdmittedServer server → certificateKey server = entry.1 →
      Trusted verify server certificate

/-- The flag of a state is set exactly while one call refreshes it. -/
structure FlagsSound (world : CertificateWorld) : Prop where
  marked : ∀ (index : Nat) (call : LoadCall) (id : Nat), world.calls[index]? = some call →
    call.phase.refreshes = some id → (world.state id).refreshing = true
  refreshed : ∀ id, (world.state id).refreshing = true →
    ∃ (index : Nat) (call : LoadCall), world.calls[index]? = some call ∧
      call.phase.refreshes = some id
  alone : ∀ (index other : Nat) (call call' : LoadCall) (id : Nat),
    world.calls[index]? = some call →
    world.calls[other]? = some call' → call.phase.refreshes = some id →
    call'.phase.refreshes = some id → index = other

structure LoadSound (verify : SignatureCheck) (world : CertificateWorld) :
    Prop where
  calls : ∀ call ∈ world.calls, CallSound verify world.entries call
  cache : CacheSound verify world
  flags : FlagsSound world

theorem loadSound_initial (verify : SignatureCheck) : LoadSound verify {} where
  calls := by
    intro call member
    cases member
  cache :=
    { keys := List.nodup_nil
      ids := List.nodup_nil
      stored := by
        intro entry member
        cases member
      bounded := Nat.zero_le _
      trusted := by
        intro entry member
        cases member }
  flags :=
    { marked := by
        intro index call id found
        cases found
      refreshed := by
        intro id set
        cases set
      alone := by
        intro index other call call' id found
        cases found }

/-! ### Changing one call -/

section Steps

variable {verify : SignatureCheck} {world : CertificateWorld} {index : Nat}
  {call after : LoadCall}

theorem callAt_set (found : world.calls[index]? = some call) (after : LoadCall)
    (other : Nat) :
    (world.setCall index after).calls[other]? =
      if other = index then some after else world.calls[other]? := by
  have inside := (List.getElem?_eq_some_iff.mp found).1
  simp only [CertificateWorld.setCall]
  by_cases same : other = index
  · rw [if_pos same, same, List.getElem?_set_self inside]
  · rw [if_neg same, List.getElem?_set_ne (Ne.symm same)]

theorem calls_sound_set (sound : ∀ call ∈ world.calls,
      CallSound verify world.entries call)
    (own : CallSound verify world.entries after) :
    ∀ call ∈ (world.setCall index after).calls,
      CallSound verify world.entries call := by
  intro other member
  rcases List.mem_or_eq_of_mem_set member with old | new
  · exact sound other old
  · rw [new]
    exact own

theorem LoadSound.setCall (sound : LoadSound verify world)
    (found : world.calls[index]? = some call)
    (own : CallSound verify world.entries after)
    (same : after.phase.refreshes = call.phase.refreshes) :
    LoadSound verify (world.setCall index after) := by
  have before : ∀ (other : Nat) (moved : LoadCall),
      (world.setCall index after).calls[other]? = some moved →
      ∃ old : LoadCall, world.calls[other]? = some old ∧
        moved.phase.refreshes = old.phase.refreshes := by
    intro other moved foundMoved
    rw [callAt_set found] at foundMoved
    split at foundMoved
    · rename_i here
      cases foundMoved
      exact ⟨call, here ▸ found, same⟩
    · exact ⟨moved, foundMoved, rfl⟩
  constructor
  case calls =>
    exact calls_sound_set sound.calls own
  case cache =>
    exact ⟨sound.cache.keys, sound.cache.ids, sound.cache.stored,
      sound.cache.bounded, sound.cache.trusted⟩
  case flags =>
    constructor
    case marked =>
      intro other moved id foundMoved refreshes
      obtain ⟨old, foundOld, sameFlag⟩ := before other moved foundMoved
      exact sound.flags.marked other old id foundOld (sameFlag ▸ refreshes)
    case refreshed =>
      intro id set
      obtain ⟨other, old, foundOld, refreshes⟩ := sound.flags.refreshed id set
      by_cases here : other = index
      · rw [here, found] at foundOld
        cases foundOld
        refine ⟨index, after, ?_, same.trans refreshes⟩
        rw [callAt_set found, if_pos rfl]
      · refine ⟨other, old, ?_, refreshes⟩
        rw [callAt_set found, if_neg here, foundOld]
    case alone =>
      intro first second moved moved' id foundFirst foundSecond refreshes refreshes'
      obtain ⟨old, foundOld, sameFlag⟩ := before first moved foundFirst
      obtain ⟨old', foundOld', sameFlag'⟩ := before second moved' foundSecond
      exact sound.flags.alone first second old old' id foundOld foundOld'
        (sameFlag ▸ refreshes) (sameFlag' ▸ refreshes')

theorem state_setState {id : Nat} (inside : id < world.states.length)
    (state : CertificateState) (other : Nat) :
    (world.setState id state).state other =
      if other = id then state else world.state other := by
  simp only [CertificateWorld.setState, CertificateWorld.state,
    List.getD_eq_getElem?_getD]
  by_cases same : other = id
  · rw [if_pos same, same, List.getElem?_set_self inside, Option.getD_some]
  · rw [if_neg same, List.getElem?_set_ne (Ne.symm same)]

/-! ### Taking and dropping the flag -/

theorem CacheSound.setState (cache : CacheSound verify world) {id : Nat}
    (inside : id < world.states.length) {state : CertificateState}
    (kept : ∀ entry ∈ world.entries, entry.2 = id → ∀ certificate,
      state.certificate = some certificate →
      ∀ server, AdmittedServer server → certificateKey server = entry.1 →
        Trusted verify server certificate) :
    CacheSound verify (world.setState id state) where
  keys := cache.keys
  ids := cache.ids
  stored := by
    intro entry member
    simp only [CertificateWorld.setState, List.length_set]
    exact cache.stored entry member
  bounded := cache.bounded
  trusted := by
    intro entry member certificate stored server admitted key
    unfold CertificateWorld.stored at stored
    rw [state_setState inside] at stored
    split at stored
    · rename_i here
      exact kept entry member here certificate stored server admitted key
    · exact cache.trusted entry member certificate stored server admitted key

theorem LoadSound.takeFlag (sound : LoadSound verify world)
    (found : world.calls[index]? = some call) {id : Nat}
    (inside : id < world.states.length)
    (free : (world.state id).refreshing = false)
    (idle : call.phase.refreshes = none)
    (own : CallSound verify world.entries after)
    (taken : after.phase.refreshes = some id) :
    LoadSound verify
      ((world.setState id { world.state id with refreshing := true }).setCall
        index after) := by
  have foundCall : (world.setState id
      { world.state id with refreshing := true }).calls[index]? = some call := found
  have others : ∀ (other : Nat) (moved : LoadCall) (held : Nat),
      world.calls[other]? = some moved → moved.phase.refreshes = some held →
      held ≠ id ∧ other ≠ index := by
    intro other moved held foundMoved refreshes
    constructor
    · intro same
      have marked := sound.flags.marked other moved held foundMoved refreshes
      rw [same, free] at marked
      cases marked
    · intro same
      rw [same, found] at foundMoved
      cases foundMoved
      rw [idle] at refreshes
      cases refreshes
  constructor
  case calls =>
    exact @calls_sound_set verify (world.setState id _) index after sound.calls own
  case cache =>
    have cache : CacheSound verify
        (world.setState id { world.state id with refreshing := true }) := by
      apply sound.cache.setState inside
      intro entry member here certificate stored server admitted key
      exact sound.cache.trusted entry member certificate (here ▸ stored) server
        admitted key
    exact ⟨cache.keys, cache.ids, cache.stored, cache.bounded, cache.trusted⟩
  case flags =>
    constructor
    case marked =>
      intro other moved held foundMoved refreshes
      rw [callAt_set foundCall] at foundMoved
      change ((world.setState id _).state held).refreshing = true
      rw [state_setState inside]
      split at foundMoved
      · cases foundMoved
        rw [taken] at refreshes
        cases refreshes
        rw [if_pos rfl]
      · rw [if_neg (others other moved held foundMoved refreshes).1]
        exact sound.flags.marked other moved held foundMoved refreshes
    case refreshed =>
      intro held set
      change ((world.setState id _).state held).refreshing = true at set
      rw [state_setState inside] at set
      split at set
      · rename_i here
        refine ⟨index, after, ?_, here ▸ taken⟩
        rw [callAt_set foundCall, if_pos rfl]
      · obtain ⟨other, moved, foundMoved, refreshes⟩ :=
          sound.flags.refreshed held set
        refine ⟨other, moved, ?_, refreshes⟩
        rw [callAt_set foundCall,
          if_neg (others other moved held foundMoved refreshes).2]
        exact foundMoved
    case alone =>
      intro first second moved moved' held foundFirst foundSecond refreshes refreshes'
      rw [callAt_set foundCall] at foundFirst foundSecond
      split at foundFirst
      · rename_i firstHere
        cases foundFirst
        rw [taken] at refreshes
        cases refreshes
        split at foundSecond
        · rename_i secondHere
          rw [firstHere, secondHere]
        · exact absurd rfl (others second moved' id foundSecond refreshes').1
      · split at foundSecond
        · cases foundSecond
          rw [taken] at refreshes'
          cases refreshes'
          exact absurd rfl (others first moved id foundFirst refreshes).1
        · exact sound.flags.alone first second moved moved' held foundFirst
            foundSecond refreshes refreshes'

theorem LoadSound.dropFlag (sound : LoadSound verify world)
    (found : world.calls[index]? = some call) {id : Nat}
    (refreshes : call.phase.refreshes = some id)
    (held : call.phase.held = some id)
    {state : CertificateState} (dropped : state.refreshing = false)
    (kept : state.certificate = world.stored id ∨
      ∃ certificate, state.certificate = some certificate ∧
        Trusted verify call.server certificate)
    (own : CallSound verify world.entries after)
    (ended : after.phase.refreshes = none) :
    LoadSound verify ((world.setState id state).setCall index after) := by
  have callMember := List.mem_of_getElem? found
  have entryMember := (sound.calls call callMember).held id held
  have inside := sound.cache.stored _ entryMember
  have foundCall : (world.setState id state).calls[index]? = some call := found
  have others : ∀ (other : Nat) (moved : LoadCall) (id' : Nat), other ≠ index →
      world.calls[other]? = some moved → moved.phase.refreshes = some id' →
      id' ≠ id := by
    intro other moved id' different foundMoved refreshes' same
    exact different (sound.flags.alone other index moved call id' foundMoved found
      refreshes' (same ▸ refreshes))
  constructor
  case calls =>
    exact @calls_sound_set verify (world.setState id state) index after sound.calls own
  case cache =>
    have cache : CacheSound verify (world.setState id state) := by
      apply sound.cache.setState inside
      intro entry member here certificate stored server admitted key
      rcases kept with same | ⟨fetched, fetchedEq, trusted⟩
      · exact sound.cache.trusted entry member certificate
          (by rw [here, ← same, stored]) server admitted key
      · rw [fetchedEq] at stored
        cases stored
        obtain ⟨providerKey, parsed, authentic⟩ := trusted
        have keyEq : certificateKey call.server = entry.1 := by
          have pairs := List.inj_on_of_nodup_map sound.cache.ids entryMember member
            (by rw [here])
          rw [← pairs]
        have admittedCall := (sound.calls call callMember).admitted
        refine ⟨providerKey, ?_, authentic⟩
        rw [certificateKey_publicKey admitted admittedCall (key.trans keyEq.symm)]
        exact parsed
    exact ⟨cache.keys, cache.ids, cache.stored, cache.bounded, cache.trusted⟩
  case flags =>
    constructor
    case marked =>
      intro other moved id' foundMoved refreshes'
      rw [callAt_set foundCall] at foundMoved
      change ((world.setState id state).state id').refreshing = true
      rw [state_setState inside]
      split at foundMoved
      · cases foundMoved
        rw [ended] at refreshes'
        cases refreshes'
      · rename_i different
        rw [if_neg (others other moved id' different foundMoved refreshes')]
        exact sound.flags.marked other moved id' foundMoved refreshes'
    case refreshed =>
      intro id' set
      change ((world.setState id state).state id').refreshing = true at set
      rw [state_setState inside] at set
      split at set
      · rw [dropped] at set
        cases set
      · rename_i different
        obtain ⟨other, moved, foundMoved, refreshes'⟩ :=
          sound.flags.refreshed id' set
        refine ⟨other, moved, ?_, refreshes'⟩
        have apart : other ≠ index := by
          intro same
          rw [same, found] at foundMoved
          cases foundMoved
          rw [refreshes] at refreshes'
          exact different (Option.some.inj refreshes').symm
        rw [callAt_set foundCall, if_neg apart]
        exact foundMoved
    case alone =>
      intro first second moved moved' id' foundFirst foundSecond first' second'
      rw [callAt_set foundCall] at foundFirst foundSecond
      split at foundFirst
      · cases foundFirst
        rw [ended] at first'
        cases first'
      · split at foundSecond
        · cases foundSecond
          rw [ended] at second'
          cases second'
        · exact sound.flags.alone first second moved moved' id' foundFirst foundSecond
            first' second'

/-! ### The sections -/

/-- A call that has moved on is sound when it holds nothing or the state of its
key, and vouches for its certificate. -/
theorem CallSound.moved {entries : List (Bytes × Nat)}
    (own : CallSound verify entries call) {phase : LoadPhase} {times : List Nat}
    (held : phase.held = none ∨ ∃ id, phase.held = some id ∧
      (certificateKey call.server, id) ∈ entries)
    (vouched : ∀ certificate, phase.certificate = some certificate →
      Trusted verify call.server certificate ∧ ValidDuring times certificate)
    (clock : ∀ state current now, phase = .fetching state current now →
      now ∈ times) :
    CallSound verify entries
      { call with
        phase := phase
        times := times } where
  admitted := own.admitted
  held := by
    intro id heldId
    rcases held with free | ⟨other, same, member⟩
    · rw [free] at heldId
      cases heldId
    · rw [same] at heldId
      cases heldId
      exact member
  vouched := vouched
  clock := clock

theorem CacheSound.trusted_call (cache : CacheSound verify world) {id : Nat}
    {server : Server} (admitted : AdmittedServer server)
    (member : (certificateKey server, id) ∈ world.entries)
    {certificate : DnsCryptCertificate}
    (stored : world.stored id = some certificate) :
    Trusted verify server certificate :=
  cache.trusted _ member certificate stored server admitted rfl

theorem LoadSound.loopPass (sound : LoadSound verify world)
    (found : world.calls[index]? = some call) {id : Nat}
    (member : (certificateKey call.server, id) ∈ world.entries)
    (idle : call.phase.refreshes = none) (seconds : Int) (steady : Nat) :
    LoadSound verify (world.loopPass index call id seconds steady) := by
  have own := sound.calls call (List.mem_of_getElem? found)
  have inside := sound.cache.stored _ member
  unfold CertificateWorld.loopPass
  cases clock : unixTime seconds with
  | error error =>
      apply sound.setCall found
      · apply own.moved
        · exact Or.inr ⟨id, rfl, member⟩
        · exact nofun
        · exact nofun
      · rw [idle]
        rfl
  | ok now =>
      simp only
      have valid : ∀ certificate,
          (world.state id).certificate.filter (·.validAt now) = some certificate →
          Trusted verify call.server certificate ∧
            ValidDuring (call.times ++ [now]) certificate := by
        intro certificate current
        obtain ⟨stored, validNow⟩ := Option.filter_eq_some_iff.mp current
        exact ⟨sound.cache.trusted_call own.admitted member stored,
          validDuring_of_validAt (List.mem_append_right _ List.mem_cons_self)
            validNow⟩
      split
      · rename_i certificate current fresh
        apply sound.setCall found
        · apply own.moved
          · exact Or.inr ⟨id, rfl, member⟩
          · intro returned same
            cases same
            exact valid certificate current
          · exact nofun
        · rw [idle]
          rfl
      · split
        · apply sound.setCall found
          · apply own.moved
            · exact Or.inr ⟨id, rfl, member⟩
            · exact nofun
            · exact nofun
          · rw [idle]
            rfl
        · rename_i free
          apply sound.takeFlag found inside (Bool.eq_false_of_not_eq_true free) idle
          · apply own.moved
            · exact Or.inr ⟨id, rfl, member⟩
            · exact valid
            · exact nofun
          · rfl

theorem LoadSound.failRefresh (sound : LoadSound verify world)
    (found : world.calls[index]? = some call) {id : Nat}
    {current : Option DnsCryptCertificate}
    (refreshes : call.phase.refreshes = some id)
    (held : call.phase.held = some id)
    (fallback : call.phase.certificate = current) (thrown : Thrown) :
    LoadSound verify (world.failRefresh index call id current thrown) := by
  have own := sound.calls call (List.mem_of_getElem? found)
  unfold CertificateWorld.failRefresh
  refine sound.dropFlag found refreshes held ?_ ?_ ?_ ?_
  · rfl
  · exact Or.inl rfl
  · apply own.moved
    · exact Or.inr ⟨id, rfl, own.held id held⟩
    · intro certificate returned
      apply own.vouched certificate
      rw [fallback]
      cases current with
      | none =>
          cases returned
      | some kept =>
          exact returned
    · exact nofun
  · rfl

theorem LoadSound.completeRefresh (sound : LoadSound verify world)
    (found : world.calls[index]? = some call) {id now : Nat}
    {current : Option DnsCryptCertificate}
    (phase : call.phase = .fetching id current now)
    {certificate : DnsCryptCertificate}
    (trusted : Trusted verify call.server certificate)
    (valid : certificate.validAt now = true) (steady : Nat) :
    LoadSound verify
      (world.completeRefresh index call id now certificate steady) := by
  have own := sound.calls call (List.mem_of_getElem? found)
  have held : call.phase.held = some id := by
    rw [phase]
    rfl
  have refreshes : call.phase.refreshes = some id := by
    rw [phase]
    rfl
  unfold CertificateWorld.completeRefresh
  apply sound.dropFlag found refreshes held rfl (Or.inr ⟨certificate, rfl, trusted⟩)
  · apply own.moved
    · exact Or.inr ⟨id, rfl, own.held id held⟩
    · intro returned same
      cases same
      exact ⟨trusted, validDuring_of_validAt (own.clock id current now phase) valid⟩
    · exact nofun
  · rfl

theorem fetchedCertificate_spec {server : Server} {now : Nat}
    {blobs : Except Thrown (List Packet)} {certificate : DnsCryptCertificate}
    (run : fetchedCertificate verify server now blobs = .ok certificate) :
    Trusted verify server certificate ∧ certificate.validAt now = true := by
  unfold fetchedCertificate at run
  split at run
  · cases run
  · split at run
    · cases run
    · rename_i providerKey parsed
      split at run
      · cases run
      · rename_i selected chosen
        cases run
        obtain ⟨authentic, valid⟩ := selectDnscryptCertificate_spec chosen
        exact ⟨⟨providerKey, parsed, authentic⟩, valid⟩

/-! ### Eviction and the entry of a key -/

theorem evictUnused_sublist (unused : Nat → Bool) (size : Nat)
    (entries : List (Bytes × Nat)) :
    (evictUnused unused size entries).Sublist entries := by
  induction entries generalizing size with
  | nil =>
      exact List.Sublist.slnil
  | cons entry rest ih =>
      simp only [evictUnused]
      split
      · exact List.Sublist.refl _
      · split
        · exact (ih _).trans (List.sublist_cons_self _ _)
        · exact (ih _).cons_cons _

theorem evictUnused_keeps {unused : Nat → Bool} {size : Nat}
    {entries : List (Bytes × Nat)} {entry : Bytes × Nat}
    (member : entry ∈ entries) (used : unused entry.2 = false) :
    entry ∈ evictUnused unused size entries := by
  induction entries generalizing size with
  | nil =>
      cases member
  | cons first rest ih =>
      simp only [evictUnused]
      split
      · exact member
      · rcases List.mem_cons.mp member with here | later
        · rw [if_neg (by rw [← here, used]; exact Bool.false_ne_true)]
          exact here ▸ List.mem_cons_self
        · split
          · exact ih later
          · exact List.mem_cons_of_mem _ (ih later)

theorem findEntry_mem {entries : List (Bytes × Nat)} {key : Bytes} {id : Nat}
    (found : findEntry entries key = some id) : (key, id) ∈ entries := by
  obtain ⟨entry, first, same⟩ := Option.map_eq_some_iff.mp found
  have keyEq := List.find?_some first
  have member := List.mem_of_find?_eq_some first
  rw [← eq_of_beq keyEq, ← same]
  exact member

theorem findEntry_none {entries : List (Bytes × Nat)} {key : Bytes}
    (missing : findEntry entries key = none) : ∀ entry ∈ entries, entry.1 ≠ key := by
  intro entry member same
  have none := List.find?_eq_none.mp (Option.map_eq_none_iff.mp missing) entry member
  exact none (beq_iff_eq.mpr same)

theorem unused_of_held {id : Nat} (member : call ∈ world.calls)
    (held : call.phase.held = some id) : world.unused id = false := by
  unfold CertificateWorld.unused
  rw [Bool.and_eq_false_iff]
  apply Or.inl
  rw [List.all_eq_false]
  exact ⟨call, member, by rw [held]; simp⟩

theorem LoadSound.evict (sound : LoadSound verify world)
    {order : List (Bytes × Nat)} (permuted : order.Perm world.entries) (size : Nat) :
    LoadSound verify
      { world with entries := evictUnused world.unused size order } := by
  have fewer := evictUnused_sublist world.unused size order
  have kept : ∀ {entry : Bytes × Nat},
      entry ∈ evictUnused world.unused size order → entry ∈ world.entries :=
    fun member => permuted.mem_iff.mp (fewer.mem member)
  constructor
  case calls =>
    intro call member
    have own := sound.calls call member
    refine ⟨own.admitted, ?_, own.vouched, own.clock⟩
    intro id held
    exact evictUnused_keeps (permuted.mem_iff.mpr (own.held id held))
      (unused_of_held member held)
  case cache =>
    constructor
    case keys =>
      exact (fewer.map _).nodup ((permuted.map _).nodup_iff.mpr sound.cache.keys)
    case ids =>
      exact (fewer.map _).nodup ((permuted.map _).nodup_iff.mpr sound.cache.ids)
    case stored =>
      exact fun entry member => sound.cache.stored entry (kept member)
    case bounded =>
      exact Nat.le_trans fewer.length_le
        (Nat.le_trans (Nat.le_of_eq permuted.length_eq) sound.cache.bounded)
    case trusted =>
      exact fun entry member => sound.cache.trusted entry (kept member)
  case flags =>
    exact ⟨sound.flags.marked, sound.flags.refreshed, sound.flags.alone⟩

theorem LoadSound.insert (sound : LoadSound verify world) {key : Bytes}
    (missing : ∀ entry ∈ world.entries, entry.1 ≠ key)
    (room : world.entries.length < maxCertificates) :
    LoadSound verify
      { world with
        entries := world.entries ++ [(key, world.states.length)]
        states := world.states ++ [({} : CertificateState)] } := by
  have sameState : ∀ id,
      (world.states ++ [({} : CertificateState)]).getD id {} = world.state id := by
    intro id
    simp only [CertificateWorld.state, List.getD_eq_getElem?_getD]
    rw [Lists.getElem?_concat]
    split
    · rename_i last
      rw [last, List.getElem?_eq_none (Nat.le_refl _)]
      rfl
    · rfl
  have unstored : world.stored world.states.length = none := by
    unfold CertificateWorld.stored CertificateWorld.state
    rw [List.getD_eq_getElem?_getD, List.getElem?_eq_none (Nat.le_refl _)]
    rfl
  constructor
  case calls =>
    intro call member
    have own := sound.calls call member
    refine ⟨own.admitted, ?_, own.vouched, own.clock⟩
    exact fun id held => List.mem_append_left _ (own.held id held)
  case cache =>
    constructor
    case keys =>
      rw [List.map_append, List.nodup_append]
      refine ⟨sound.cache.keys, List.nodup_singleton _, ?_⟩
      intro other member same new
      obtain ⟨entry, inside, rfl⟩ := List.mem_map.mp member
      rw [List.mem_singleton.mp new]
      exact missing entry inside
    case ids =>
      rw [List.map_append, List.nodup_append]
      refine ⟨sound.cache.ids, List.nodup_singleton _, ?_⟩
      intro other member same new
      obtain ⟨entry, inside, rfl⟩ := List.mem_map.mp member
      rw [List.mem_singleton.mp new]
      exact Nat.ne_of_lt (sound.cache.stored entry inside)
    case stored =>
      intro entry member
      rw [List.length_append, List.length_singleton]
      rcases List.mem_append.mp member with old | new
      · exact Nat.lt_add_right 1 (sound.cache.stored entry old)
      · rw [List.mem_singleton.mp new]
        exact Nat.lt_succ_self _
    case bounded =>
      rw [List.length_append, List.length_singleton]
      exact room
    case trusted =>
      intro entry member certificate stored server admitted serverKey
      unfold CertificateWorld.stored CertificateWorld.state at stored
      rw [sameState] at stored
      rcases List.mem_append.mp member with old | new
      · exact sound.cache.trusted entry old certificate stored server admitted
          serverKey
      · rw [List.mem_singleton.mp new] at stored
        have absent := unstored
        unfold CertificateWorld.stored at absent
        rw [absent] at stored
        cases stored
  case flags =>
    constructor
    case marked =>
      intro index call id found refreshes
      change ((world.states ++ [({} : CertificateState)]).getD id {}).refreshing = true
      rw [sameState]
      exact sound.flags.marked index call id found refreshes
    case refreshed =>
      intro id set
      change ((world.states ++ [({} : CertificateState)]).getD id {}).refreshing = true
        at set
      rw [sameState] at set
      exact sound.flags.refreshed id set
    case alone =>
      exact sound.flags.alone

theorem LoadSound.enter (sound : LoadSound verify world)
    (found : world.calls[index]? = some call) (ready : call.phase = .ready)
    {order : List (Bytes × Nat)} (permuted : order.Perm world.entries)
    (seconds : Int) (steady : Nat) :
    LoadSound verify (world.enter index call order seconds steady) := by
  have evicted := sound.evict permuted order.length
  have idle : call.phase.refreshes = none := by
    rw [ready]
    rfl
  unfold CertificateWorld.enter
  simp only
  split
  · rename_i id entry
    exact evicted.loopPass found (findEntry_mem entry) idle seconds steady
  · rename_i missing
    split
    · apply evicted.setCall found
      · have own := evicted.calls call (List.mem_of_getElem? found)
        apply own.moved
        · exact Or.inl rfl
        · exact nofun
        · exact nofun
      · rw [idle]
        rfl
    · rename_i room
      have inserted := evicted.insert (findEntry_none missing) (Nat.lt_of_not_le room)
      exact inserted.loopPass found
        (List.mem_append_right _ List.mem_cons_self) idle seconds steady

theorem LoadSound.begin (sound : LoadSound verify world) {server : Server}
    (admitted : AdmittedServer server) (deadline : Nat) :
    LoadSound verify
      { world with
        calls := world.calls ++
          [{ server := server
             deadline := deadline }] } := by
  have old : ∀ {index : Nat} {call : LoadCall} {id : Nat},
      (world.calls ++ [({ server := server, deadline := deadline } : LoadCall)])[index]? =
        some call → call.phase.refreshes = some id →
      world.calls[index]? = some call := by
    intro index call id found refreshes
    rw [Lists.getElem?_concat] at found
    split at found
    · cases found
      cases refreshes
    · exact found
  constructor
  case calls =>
    intro call member
    rcases List.mem_append.mp member with inside | new
    · exact sound.calls call inside
    · rw [List.mem_singleton.mp new]
      exact ⟨admitted, nofun, nofun, nofun⟩
  case cache =>
    exact ⟨sound.cache.keys, sound.cache.ids, sound.cache.stored,
      sound.cache.bounded, sound.cache.trusted⟩
  case flags =>
    constructor
    case marked =>
      exact fun index call id found refreshes =>
        sound.flags.marked index call id (old found refreshes) refreshes
    case refreshed =>
      intro id set
      obtain ⟨index, call, found, refreshes⟩ := sound.flags.refreshed id set
      refine ⟨index, call, ?_, refreshes⟩
      have inside := (List.getElem?_eq_some_iff.mp found).1
      rw [Lists.getElem?_concat, if_neg (Nat.ne_of_lt inside)]
      exact found
    case alone =>
      exact fun index other call call' id found found' refreshes refreshes' =>
        sound.flags.alone index other call call' id (old found refreshes)
          (old found' refreshes') refreshes refreshes'

theorem LoadSound.giveUp (sound : LoadSound verify world)
    (found : world.calls[index]? = some call) {id : Nat}
    (waiting : call.phase = .waiting id) (error : Error) :
    LoadSound verify (world.setCall index
      { call with phase := .leaving id (.error (.error error)) }) := by
  have own := sound.calls call (List.mem_of_getElem? found)
  apply sound.setCall found
  · apply own.moved
    · exact Or.inr ⟨id, rfl, own.held id (by rw [waiting]; rfl)⟩
    · exact nofun
    · exact nofun
  · rw [waiting]
    rfl

theorem LoadSound.wake (sound : LoadSound verify world)
    (found : world.calls[index]? = some call) {id : Nat}
    (waiting : call.phase = .waiting id) (seconds : Int) (steady : Nat) :
    LoadSound verify (world.loopPass index call id seconds steady) := by
  have own := sound.calls call (List.mem_of_getElem? found)
  apply sound.loopPass found
  · exact own.held id (by rw [waiting]; rfl)
  · rw [waiting]
    rfl

theorem LoadSound.readClock (sound : LoadSound verify world)
    (found : world.calls[index]? = some call) {id : Nat}
    {current : Option DnsCryptCertificate}
    (leading : call.phase = .leading id current) (now : Nat) :
    LoadSound verify (world.setCall index
      { call with
        phase := .fetching id current now
        times := call.times ++ [now] }) := by
  have own := sound.calls call (List.mem_of_getElem? found)
  apply sound.setCall found
  · apply own.moved
    · exact Or.inr ⟨id, rfl, own.held id (by rw [leading]; rfl)⟩
    · intro certificate fallback
      obtain ⟨trusted, valid⟩ := own.vouched certificate
        (by rw [leading]; exact fallback)
      exact ⟨trusted, valid.append _⟩
    · intro state kept time same
      cases same
      exact List.mem_append_right _ List.mem_cons_self
  · rw [leading]
    rfl

theorem LoadSound.leave (sound : LoadSound verify world)
    (found : world.calls[index]? = some call) {id : Nat}
    {result : Except Thrown DnsCryptCertificate}
    (leaving : call.phase = .leaving id result) :
    LoadSound verify
      (world.setCall index { call with phase := .finished result }) := by
  have own := sound.calls call (List.mem_of_getElem? found)
  apply sound.setCall found
  · apply own.moved
    · exact Or.inl rfl
    · intro certificate returned
      apply own.vouched certificate
      rw [leaving]
      cases result with
      | error thrown =>
          cases returned
      | ok kept =>
          exact returned
    · exact nofun
  · rw [leaving]
    rfl

end Steps

theorem LoadSound.step {verify : SignatureCheck} {platform : Platform}
    (plain : PlainAddresses platform) {world after : CertificateWorld}
    (sound : LoadSound verify world) {action : LoadAction}
    (run : performLoad verify platform world action = some after) :
    LoadSound verify after := by
  cases action with
  | «begin» server deadline =>
      simp only [performLoad] at run
      split at run
      · rename_i admits
        cases run
        exact sound.begin (admitted_of_admits plain admits) deadline
      · cases run
  | enter index order seconds steady =>
      simp only [performLoad] at run
      split at run
      · rename_i call found
        split at run
        · rename_i conditions
          cases run
          exact sound.enter found conditions.1 (List.isPerm_iff.mp conditions.2)
            seconds steady
        · cases run
      · cases run
  | wake index waited seconds steady =>
      simp only [performLoad] at run
      split at run
      · rename_i call found
        split at run
        · rename_i id waiting
          split at run
          · cases run
            exact sound.wake found waiting seconds steady
          · cases run
        · cases run
      · cases run
  | expire index waited =>
      simp only [performLoad] at run
      split at run
      · rename_i call found
        split at run
        · rename_i id waiting
          split at run
          · cases run
            exact sound.giveUp found waiting refreshBusy
          · cases run
        · cases run
      · cases run
  | cancel index =>
      simp only [performLoad] at run
      split at run
      · rename_i call found
        split at run
        · rename_i id waiting
          cases run
          exact sound.giveUp found waiting loadCancelled
        · cases run
      · cases run
  | readClock index seconds =>
      simp only [performLoad] at run
      split at run
      · rename_i call found
        split at run
        · rename_i id current leading
          split at run
          · cases run
            apply sound.failRefresh found <;> (rw [leading]; rfl)
          · rename_i now clock
            cases run
            exact sound.readClock found leading now
        · cases run
      · cases run
  | complete index blobs steady =>
      simp only [performLoad] at run
      split at run
      · rename_i call found
        split at run
        · rename_i id current now fetching
          split at run
          · cases run
            apply sound.failRefresh found <;> (rw [fetching]; rfl)
          · rename_i certificate fetched
            cases run
            obtain ⟨trusted, valid⟩ := fetchedCertificate_spec fetched
            exact sound.completeRefresh found fetching trusted valid steady
        · cases run
      · cases run
  | leave index =>
      simp only [performLoad] at run
      split at run
      · rename_i call found
        split at run
        · rename_i id result leaving
          cases run
          exact sound.leave found leaving
        · cases run
      · cases run

/-! ### What is stored for a key -/

def CertificateWorld.certificateOf (world : CertificateWorld) (key : Bytes) :
    Option DnsCryptCertificate :=
  (findEntry world.entries key).bind world.stored

section Stored

variable {verify : SignatureCheck} {world : CertificateWorld}

theorem stored_setState (id : Nat) {state : CertificateState}
    (same : state.certificate = world.stored id) (other : Nat) :
    (world.setState id state).stored other = world.stored other := by
  simp only [CertificateWorld.stored, CertificateWorld.state,
    CertificateWorld.setState, List.getD_eq_getElem?_getD]
  by_cases here : other = id
  · rw [here, List.getElem?_set]
    split
    · split
      · exact same
      · rename_i outside
        rw [List.getElem?_eq_none (Nat.le_of_not_lt outside)]
    · rename_i apart
      exact absurd rfl apart
  · rw [List.getElem?_set_ne (Ne.symm here)]

theorem certificateOf_loopPass (index : Nat) (call : LoadCall) (id : Nat)
    (seconds : Int) (steady : Nat) (key : Bytes) :
    (world.loopPass index call id seconds steady).certificateOf key =
      world.certificateOf key := by
  unfold CertificateWorld.loopPass
  split
  · rfl
  · simp only
    split
    · rfl
    · split
      · rfl
      · change (findEntry world.entries key).bind
          (world.setState id { world.state id with refreshing := true }).stored = _
        unfold CertificateWorld.certificateOf
        congr 1
        funext other
        apply stored_setState
        rfl

theorem certificateOf_failRefresh (index : Nat) (call : LoadCall) (id : Nat)
    (current : Option DnsCryptCertificate) (thrown : Thrown) (key : Bytes) :
    (world.failRefresh index call id current thrown).certificateOf key =
      world.certificateOf key := by
  change (findEntry world.entries key).bind
    (world.setState id { world.state id with refreshing := false }).stored = _
  unfold CertificateWorld.certificateOf
  congr 1
  funext other
  apply stored_setState
  rfl

end Stored

/-- A step at which a call stores the certificate it has fetched. -/
def Fetches (verify : SignatureCheck) (before after : CertificateWorld)
    (action : LoadAction) (key : Bytes) : Prop :=
  ∃ (index : Nat) (blobs : Except Thrown (List Packet)) (steady : Nat)
    (call : LoadCall) (id : Nat) (current : Option DnsCryptCertificate) (now : Nat)
    (certificate : DnsCryptCertificate),
    action = .complete index blobs steady ∧
      before.calls[index]? = some call ∧ certificateKey call.server = key ∧
      call.phase = .fetching id current now ∧
      fetchedCertificate verify call.server now blobs = .ok certificate ∧
      after.certificateOf key = some certificate

/-- Refreshes are single-flight, end with their flag reset, store certificates
only when they succeed, and hand out only certificates valid at a time read in
the call. -/
structure RefreshSafe (verify : SignatureCheck) (platform : Platform)
    (world : CertificateWorld) : Prop where
  singleFlight : ∀ (index other : Nat) (call call' : LoadCall),
    world.calls[index]? = some call → world.calls[other]? = some call' →
    call.phase.refreshes ≠ none → call'.phase.refreshes ≠ none →
    certificateKey call.server = certificateKey call'.server → index = other
  released : ∀ entry ∈ world.entries, (world.state entry.2).refreshing = true →
    ∃ call ∈ world.calls, certificateKey call.server = entry.1 ∧
      call.phase.refreshes = some entry.2
  bounded : world.entries.length ≤ 128
  retained : ∀ (action : LoadAction) (after : CertificateWorld) (key : Bytes),
    performLoad verify platform world action = some after →
    after.certificateOf key ≠ world.certificateOf key →
    (∃ index order seconds steady, action = .enter index order seconds steady) ∨
      Fetches verify world after action key
  returned : ∀ call ∈ world.calls, ∀ certificate,
    call.phase = .finished (.ok certificate) →
    Trusted verify call.server certificate ∧ ValidDuring call.times certificate

theorem held_of_refreshes {phase : LoadPhase} {id : Nat}
    (refreshes : phase.refreshes = some id) : phase.held = some id := by
  cases phase <;> first | exact refreshes | cases refreshes

theorem CacheSound.entry_unique {verify : SignatureCheck} {world : CertificateWorld}
    (cache : CacheSound verify world) {left right : Bytes × Nat}
    (leftMember : left ∈ world.entries) (rightMember : right ∈ world.entries)
    (same : left.1 = right.1 ∨ left.2 = right.2) : left = right := by
  rcases same with key | id
  · exact List.inj_on_of_nodup_map cache.keys leftMember rightMember key
  · exact List.inj_on_of_nodup_map cache.ids leftMember rightMember id

theorem LoadSound.stores {verify : SignatureCheck} {world : CertificateWorld}
    (sound : LoadSound verify world) {index : Nat} {call : LoadCall}
    (found : world.calls[index]? = some call) {id now : Nat}
    (held : call.phase.held = some id) (certificate : DnsCryptCertificate)
    (steady : Nat) {key : Bytes}
    (changed : (world.completeRefresh index call id now certificate
      steady).certificateOf key ≠ world.certificateOf key) :
    certificateKey call.server = key ∧
      (world.completeRefresh index call id now certificate
        steady).certificateOf key = some certificate := by
  have member := (sound.calls call (List.mem_of_getElem? found)).held id held
  have inside := sound.cache.stored _ member
  have storedEq : ∀ other, (world.completeRefresh index call id now certificate
      steady).stored other =
      if other = id then some certificate else world.stored other := by
    intro other
    change ((world.setState id _).state other).certificate = _
    rw [state_setState inside]
    split <;> rfl
  unfold CertificateWorld.certificateOf at changed ⊢
  change (findEntry world.entries key).bind _ ≠ _ at changed
  change _ ∧ (findEntry world.entries key).bind _ = _
  cases entry : findEntry world.entries key with
  | none =>
      rw [entry] at changed
      exact absurd rfl changed
  | some other =>
      rw [entry, Option.bind_some, Option.bind_some, storedEq] at changed
      rw [Option.bind_some, storedEq]
      split at changed
      · rename_i here
        have same := sound.cache.entry_unique member (findEntry_mem entry)
          (Or.inr here.symm)
        exact ⟨congrArg Prod.fst same, if_pos here⟩
      · exact absurd rfl changed

theorem LoadSound.retained {verify : SignatureCheck} {platform : Platform}
    {world after : CertificateWorld} (sound : LoadSound verify world)
    {action : LoadAction} {key : Bytes}
    (run : performLoad verify platform world action = some after)
    (changed : after.certificateOf key ≠ world.certificateOf key) :
    (∃ index order seconds steady, action = .enter index order seconds steady) ∨
      Fetches verify world after action key := by
  cases action with
  | enter index order seconds steady =>
      exact Or.inl ⟨index, order, seconds, steady, rfl⟩
  | «begin» server deadline =>
      simp only [performLoad] at run
      split at run <;> cases run
      exact absurd rfl changed
  | wake index waited seconds steady =>
      simp only [performLoad] at run
      split at run
      · split at run
        · split at run
          · cases run
            exact absurd (certificateOf_loopPass _ _ _ _ _ key) changed
          · cases run
        · cases run
      · cases run
  | expire index waited =>
      simp only [performLoad] at run
      split at run
      · split at run
        · split at run <;> cases run
          exact absurd rfl changed
        · cases run
      · cases run
  | cancel index =>
      simp only [performLoad] at run
      split at run
      · split at run <;> cases run
        exact absurd rfl changed
      · cases run
  | readClock index seconds =>
      simp only [performLoad] at run
      split at run
      · split at run
        · split at run
          · cases run
            exact absurd (certificateOf_failRefresh _ _ _ _ _ key) changed
          · cases run
            exact absurd rfl changed
        · cases run
      · cases run
  | leave index =>
      simp only [performLoad] at run
      split at run
      · split at run <;> cases run
        exact absurd rfl changed
      · cases run
  | complete index blobs steady =>
      simp only [performLoad] at run
      split at run
      · rename_i call found
        split at run
        · rename_i id current now fetching
          split at run
          · cases run
            exact absurd (certificateOf_failRefresh _ _ _ _ _ key) changed
          · rename_i certificate fetched
            cases run
            obtain ⟨keyEq, stored⟩ := sound.stores found (by rw [fetching]; rfl)
              certificate steady changed
            exact Or.inr ⟨index, blobs, steady, call, id, current, now, certificate,
              rfl, found, keyEq, fetching, fetched, stored⟩
        · cases run
      · cases run

theorem LoadSound.refreshSafe {verify : SignatureCheck} {platform : Platform}
    {world : CertificateWorld} (sound : LoadSound verify world) :
    RefreshSafe verify platform world where
  singleFlight := by
    intro index other call call' found found' refreshing refreshing' sameKey
    obtain ⟨id, refreshes⟩ := Option.ne_none_iff_exists'.mp refreshing
    obtain ⟨id', refreshes'⟩ := Option.ne_none_iff_exists'.mp refreshing'
    have member := (sound.calls call (List.mem_of_getElem? found)).held id
      (held_of_refreshes refreshes)
    have member' := (sound.calls call' (List.mem_of_getElem? found')).held id'
      (held_of_refreshes refreshes')
    have same := sound.cache.entry_unique member member' (Or.inl sameKey)
    have sameId : id = id' := congrArg Prod.snd same
    exact sound.flags.alone index other call call' id found found' refreshes
      (sameId ▸ refreshes')
  released := by
    intro entry member set
    obtain ⟨index, call, found, refreshes⟩ := sound.flags.refreshed entry.2 set
    have callMember := List.mem_of_getElem? found
    have own := (sound.calls call callMember).held entry.2
      (held_of_refreshes refreshes)
    have same := sound.cache.entry_unique own member (Or.inr rfl)
    exact ⟨call, callMember, congrArg Prod.fst same, refreshes⟩
  bounded := sound.cache.bounded
  retained := by
    intro action after key run changed
    exact sound.retained run changed
  returned := by
    intro call member certificate finished
    apply (sound.calls call member).vouched
    rw [finished]
    rfl

/-- Certificate refresh is safe in every state that calls on one transport can
reach. -/
theorem certificateRefresh_safe {verify : SignatureCheck} {platform : Platform}
    (plain : PlainAddresses platform) {world : CertificateWorld}
    (reached : LoadReached verify platform world) :
    RefreshSafe verify platform world := by
  have sound : LoadSound verify world := by
    apply reached.invariant
    · intro state initial
      rw [initial]
      exact loadSound_initial verify
    · rintro before after _ sound ⟨action, run⟩
      exact sound.step plain run
  exact sound.refreshSafe

def vectorServer : Server :=
  { protocol := .dnscrypt
    ip := ByteText.text "10.0.0.53"
    providerName := ByteText.text "2.dnscrypt-cert.example.com"
    publicKey := ByteText.text
      "03A107BFF3CE10BE1D70DD18E74BC09967E4D6309BA50D5F1DDC8664125531B8" }

def servedRun : List LoadAction :=
  [.begin vectorServer 9, .enter 0 [] 0x68000001 1, .readClock 0 0x68000002,
    .complete 0 (.ok [vectorBlob]) 2, .leave 0, .begin vectorServer 9,
    .enter 1 [(certificateKey vectorServer, 0)] 0x68000003 3, .leave 1]

theorem certificateRefresh_safe_served :
    ∃ world, LoadReached recordedCheck ipv4Platform world ∧
      world.calls.map (·.phase) =
        [.finished (.ok (readCertificate vectorBlob)),
          .finished (.ok (readCertificate vectorBlob))] ∧
      RefreshSafe recordedCheck ipv4Platform world := by
  have result : ((Transition.performAll
      (performLoad recordedCheck ipv4Platform) {} servedRun).map
        fun world => world.calls.map (·.phase)) =
      some [.finished (.ok (readCertificate vectorBlob)),
        .finished (.ok (readCertificate vectorBlob))] := by
    decide +kernel
  obtain ⟨world, ran, phases⟩ := Option.map_eq_some_iff.mp result
  have start : LoadReached recordedCheck ipv4Platform {} := .start rfl
  have reached : LoadReached recordedCheck ipv4Platform world :=
    start.performAll (fun _ action _ performed => ⟨action, performed⟩) ran
  exact ⟨world, reached, phases, certificateRefresh_safe ipv4Platform_plain reached⟩

end NativeDNS
