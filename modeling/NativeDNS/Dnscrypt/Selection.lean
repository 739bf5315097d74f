/-
The choice among the certificates of a provider.

One pass over the blobs keeps the first certificate of the highest serial
among those that may be used, and remembers whether a genuine one was out of
its time.  What is chosen, and how the choice fails, does not depend on the
order of the blobs or on foreign ones.
-/
import NativeDNS.Dnscrypt.Certificate

namespace NativeDNS

open ByteText (text decimal)
open CheckedResult

/-- A blob in the layout of a certificate of a supported version. -/
structure WellFormedBlob (blob : Packet) : Prop where
  length : classicalCertificateSize ≤ blob.length
  magic : blob.take 4 = certMagic
  version : byteAt blob 4 = 0 ∧ (byteAt blob 5 = 1 ∨ byteAt blob 5 = 2)
  minor : byteAt blob 6 = 0 ∧ byteAt blob 7 = 0
  clientMagic : byteAt blob 5 = 2 →
    ∃ magicByte ∈ (slice blob 104 8).take 7, magicByte ≠ 0

section Choice

variable (verify : SignatureCheck) (providerKey : Bytes) (unixTime : Nat)

/-- A blob whose signature the provider key verifies. -/
def AuthenticBlob (blob : Packet) : Prop :=
  verify (slice blob 8 64) (blob.drop 72) providerKey = true

/-- A certificate of the provider with a span of validity. -/
structure GenuineBlob (blob : Packet) : Prop where
  wellFormed : WellFormedBlob blob
  authentic : AuthenticBlob verify providerKey blob
  span : (readCertificate blob).validFrom < (readCertificate blob).validUntil

/-- A certificate that may be used at the given time. -/
structure UsableBlob (blob : Packet) : Prop where
  wellFormed : WellFormedBlob blob
  authentic : AuthenticBlob verify providerKey blob
  begun : (readCertificate blob).validFrom ≤ unixTime
  unexpired : unixTime < (readCertificate blob).validUntil

/-- The certificate of the first usable blob of the highest serial. -/
def FirstBest (blobs : List Packet) (certificate : DnsCryptCertificate) :
    Prop :=
  ∃ before blob after,
    blobs = before ++ blob :: after ∧
      UsableBlob verify providerKey unixTime blob ∧
      certificate = readCertificate blob ∧
      (∀ other ∈ before, UsableBlob verify providerKey unixTime other →
        (readCertificate other).serial < certificate.serial) ∧
      ∀ other ∈ after, UsableBlob verify providerKey unixTime other →
        (readCertificate other).serial ≤ certificate.serial

end Choice

section Search

variable {verify : SignatureCheck} {providerKey : Bytes} {unixTime : Nat}

theorem UsableBlob.genuine {blob : Packet}
    (usable : UsableBlob verify providerKey unixTime blob) :
    GenuineBlob verify providerKey blob where
  wellFormed := usable.wellFormed
  authentic := usable.authentic
  span := Nat.lt_of_le_of_lt usable.begun usable.unexpired

theorem allowedMagic_iff {blob : Packet} :
    ¬ ((readCertificate blob).encryptionSystem = 2 ∧
        ((readCertificate blob).clientMagic.take 7).all (· == 0) = true) ↔
      (byteAt blob 5 = 2 →
        ∃ magicByte ∈ (slice blob 104 8).take 7, magicByte ≠ 0) := by
  change ¬ (byteAt blob 5 = 2 ∧
    ((slice blob 104 8).take 7).all (· == 0) = true) ↔ _
  constructor
  · intro allowed second
    by_contra blank
    apply allowed
    refine ⟨second, List.all_eq_true.mpr fun magicByte member => ?_⟩
    by_contra different
    exact blank ⟨magicByte, member, fun zero => different (beq_iff_eq.mpr zero)⟩
  · rintro allowed ⟨second, blank⟩
    obtain ⟨magicByte, member, nonzero⟩ := allowed second
    exact nonzero (beq_iff_eq.mp (List.all_eq_true.mp blank magicByte member))

/-- The tests that do not depend on the time pass exactly the genuine blobs. -/
theorem candidateCertificate_eq_some {blob : Packet}
    {certificate : DnsCryptCertificate} :
    candidateCertificate verify providerKey blob = some certificate ↔
      GenuineBlob verify providerKey blob ∧
        certificate = readCertificate blob := by
  unfold candidateCertificate
  constructor
  · intro passed
    split at passed
    · cases passed
    · rename_i layout
      split at passed
      · cases passed
      · rename_i version
        split at passed
        · cases passed
        · rename_i authentic
          dsimp only at passed
          split at passed
          · cases passed
          · rename_i magic
            split at passed
            · cases passed
            · rename_i span
              simp only [not_or, not_and_or, ne_eq, not_not] at layout version
              exact ⟨
                { wellFormed :=
                    { length := Nat.le_of_not_lt layout.1
                      magic := layout.2
                      version := ⟨version.1, version.2.1⟩
                      minor := version.2.2
                      clientMagic := allowedMagic_iff.mp magic }
                  authentic := eq_true_of_ne_false authentic
                  span := Nat.lt_of_not_le span },
                (Option.some.inj passed).symm⟩
  · rintro ⟨genuine, rfl⟩
    have wellFormed := genuine.wellFormed
    have layout : ¬ (blob.length < classicalCertificateSize ∨
        blob.take 4 ≠ certMagic) :=
      not_or.mpr ⟨Nat.not_lt_of_le wellFormed.length, not_not.mpr wellFormed.magic⟩
    have version : ¬ (byteAt blob 4 ≠ 0 ∨
        (byteAt blob 5 ≠ 1 ∧ byteAt blob 5 ≠ 2) ∨ byteAt blob 6 ≠ 0 ∨
          byteAt blob 7 ≠ 0) := by
      simp only [not_or, not_and_or, ne_eq, not_not]
      exact ⟨wellFormed.version.1, wellFormed.version.2, wellFormed.minor⟩
    rw [if_neg layout, if_neg version, if_neg (ne_false_of_eq_true
      genuine.authentic)]
    dsimp only
    rw [if_neg (allowedMagic_iff.mpr wellFormed.clientMagic),
      if_neg (Nat.not_le_of_lt genuine.span)]

theorem validAt_iff {certificate : DnsCryptCertificate} :
    certificate.validAt unixTime = true ↔
      certificate.validFrom ≤ unixTime ∧ unixTime < certificate.validUntil := by
  unfold DnsCryptCertificate.validAt
  rw [Bool.and_eq_true, decide_eq_true_iff, decide_eq_true_iff]

theorem usableBlob_iff {blob : Packet} :
    UsableBlob verify providerKey unixTime blob ↔
      GenuineBlob verify providerKey blob ∧
        (readCertificate blob).validAt unixTime = true := by
  rw [validAt_iff]
  constructor
  · intro usable
    exact ⟨usable.genuine, usable.begun, usable.unexpired⟩
  · rintro ⟨genuine, begun, unexpired⟩
    exact
      { wellFormed := genuine.wellFormed
        authentic := genuine.authentic
        begun := begun
        unexpired := unexpired }

/-! ### The pass over the blobs -/

/-- What the search has found among the blobs it has seen. -/
structure Searched (verify : SignatureCheck) (providerKey : Bytes)
    (unixTime : Nat) (seen : List Packet) (search : CertificateSearch) :
    Prop where
  unselected : search.selected = none →
    ∀ blob ∈ seen, ¬ UsableBlob verify providerKey unixTime blob
  selected : ∀ certificate, search.selected = some certificate →
    FirstBest verify providerKey unixTime seen certificate
  timeInvalid : search.timeInvalid = true ↔
    ∃ blob ∈ seen, GenuineBlob verify providerKey blob ∧
      ¬ UsableBlob verify providerKey unixTime blob

theorem FirstBest.behind {seen : List Packet} {blob : Packet}
    {certificate : DnsCryptCertificate}
    (best : FirstBest verify providerKey unixTime seen certificate)
    (lower : UsableBlob verify providerKey unixTime blob →
      (readCertificate blob).serial ≤ certificate.serial) :
    FirstBest verify providerKey unixTime (seen ++ [blob]) certificate := by
  obtain ⟨before, chosen, after, rfl, usable, same, less, notMore⟩ := best
  refine ⟨before, chosen, after ++ [blob], ?_, usable, same, less, ?_⟩
  · rw [List.append_assoc, List.cons_append]
  · intro other member usableOther
    rcases List.mem_append.mp member with earlier | last
    · exact notMore other earlier usableOther
    · rw [List.mem_singleton.mp last] at usableOther ⊢
      exact lower usableOther

theorem FirstBest.maximal {blobs : List Packet}
    {certificate : DnsCryptCertificate}
    (best : FirstBest verify providerKey unixTime blobs certificate) :
    ∀ blob ∈ blobs, UsableBlob verify providerKey unixTime blob →
      (readCertificate blob).serial ≤ certificate.serial := by
  obtain ⟨before, chosen, after, rfl, _, same, less, notMore⟩ := best
  intro blob member usable
  rcases List.mem_append.mp member with earlier | later
  · exact Nat.le_of_lt (less blob earlier usable)
  · rcases List.mem_cons.mp later with here | later
    · rw [here, same]
    · exact notMore blob later usable

theorem FirstBest.chosen {blobs : List Packet}
    {certificate : DnsCryptCertificate}
    (best : FirstBest verify providerKey unixTime blobs certificate) :
    ∃ blob ∈ blobs, UsableBlob verify providerKey unixTime blob ∧
      certificate = readCertificate blob := by
  obtain ⟨before, chosen, after, rfl, usable, same, _⟩ := best
  exact ⟨chosen, List.mem_append_right _ List.mem_cons_self, usable, same⟩

theorem exists_mem_append_singleton {seen : List Packet} {blob : Packet}
    {holds : Packet → Prop} :
    (∃ other ∈ seen ++ [blob], holds other) ↔
      (∃ other ∈ seen, holds other) ∨ holds blob := by
  constructor
  · rintro ⟨other, member, here⟩
    rcases List.mem_append.mp member with earlier | last
    · exact Or.inl ⟨other, earlier, here⟩
    · exact Or.inr (List.mem_singleton.mp last ▸ here)
  · rintro (⟨other, earlier, here⟩ | here)
    · exact ⟨other, List.mem_append_left _ earlier, here⟩
    · exact ⟨blob, List.mem_append_right _ (List.mem_singleton_self _), here⟩

theorem Searched.unusable {seen : List Packet} {search : CertificateSearch}
    (searched : Searched verify providerKey unixTime seen search)
    {blob : Packet} (unusable : ¬ UsableBlob verify providerKey unixTime blob)
    {timeInvalid : Bool}
    (timed : timeInvalid = true ↔
      search.timeInvalid = true ∨ GenuineBlob verify providerKey blob) :
    Searched verify providerKey unixTime (seen ++ [blob])
      { selected := search.selected
        timeInvalid := timeInvalid } where
  unselected := by
    intro missing other member
    rcases List.mem_append.mp member with earlier | last
    · exact searched.unselected missing other earlier
    · rw [List.mem_singleton.mp last]
      exact unusable
  selected := fun certificate found =>
    (searched.selected certificate found).behind
      (fun usable => absurd usable unusable)
  timeInvalid := by
    rw [timed, searched.timeInvalid, exists_mem_append_singleton]
    exact or_congr_right ⟨fun genuine => ⟨genuine, unusable⟩, fun both => both.1⟩

theorem Searched.usable {seen : List Packet} {search : CertificateSearch}
    (searched : Searched verify providerKey unixTime seen search)
    {blob : Packet} (usable : UsableBlob verify providerKey unixTime blob)
    {selected : DnsCryptCertificate}
    (best : FirstBest verify providerKey unixTime (seen ++ [blob]) selected) :
    Searched verify providerKey unixTime (seen ++ [blob])
      { selected := some selected
        timeInvalid := search.timeInvalid } where
  unselected := by
    intro impossible
    cases impossible
  selected := by
    intro certificate found
    rw [← Option.some.inj found]
    exact best
  timeInvalid := by
    change search.timeInvalid = true ↔ _
    rw [searched.timeInvalid, exists_mem_append_singleton]
    exact ⟨Or.inl, fun either =>
      either.elim id (fun both => absurd usable both.2)⟩

/-- The blob at the end is the choice when every usable one before it has a
lower serial. -/
theorem FirstBest.last {seen : List Packet} {blob : Packet}
    (usable : UsableBlob verify providerKey unixTime blob)
    (less : ∀ other ∈ seen, UsableBlob verify providerKey unixTime other →
      (readCertificate other).serial < (readCertificate blob).serial) :
    FirstBest verify providerKey unixTime (seen ++ [blob])
      (readCertificate blob) :=
  ⟨seen, blob, [], rfl, usable, rfl, less, fun _ impossible =>
    absurd impossible List.not_mem_nil⟩

theorem Searched.consider {seen : List Packet} {search : CertificateSearch}
    (searched : Searched verify providerKey unixTime seen search)
    (blob : Packet) :
    Searched verify providerKey unixTime (seen ++ [blob])
      (considerCertificate verify providerKey unixTime search blob) := by
  unfold considerCertificate
  cases read : candidateCertificate verify providerKey blob with
  | none =>
      have foreign : ¬ GenuineBlob verify providerKey blob := by
        intro genuine
        have passed := candidateCertificate_eq_some.mpr ⟨genuine, rfl⟩
        rw [read] at passed
        cases passed
      exact searched.unusable (fun usable => foreign usable.genuine)
        ⟨Or.inl, fun either => either.resolve_right foreign⟩
  | some candidate =>
      obtain ⟨genuine, rfl⟩ := candidateCertificate_eq_some.mp read
      dsimp only
      by_cases valid : (readCertificate blob).validAt unixTime = false
      · rw [if_pos valid]
        refine searched.unusable (fun usable => ?_)
          ⟨fun _ => Or.inr genuine, fun _ => rfl⟩
        rw [(usableBlob_iff.mp usable).2] at valid
        cases valid
      · rw [if_neg valid]
        have usable : UsableBlob verify providerKey unixTime blob :=
          usableBlob_iff.mpr ⟨genuine, eq_true_of_ne_false valid⟩
        cases selected : search.selected with
        | none =>
            exact searched.usable usable (FirstBest.last usable
              fun other earlier usableOther =>
                absurd usableOther (searched.unselected selected other earlier))
        | some current =>
            have best := searched.selected current selected
            dsimp only
            split
            · rename_i higher
              exact searched.usable usable (FirstBest.last usable
                fun other earlier usableOther => Nat.lt_of_le_of_lt
                  (best.maximal other earlier usableOther) higher)
            · rename_i notHigher
              have kept := searched.usable usable
                (best.behind fun _ => Nat.le_of_not_lt notHigher)
              rw [← selected] at kept
              exact kept

theorem searched_foldl (blobs : List Packet) {seen : List Packet}
    {search : CertificateSearch}
    (searched : Searched verify providerKey unixTime seen search) :
    Searched verify providerKey unixTime (seen ++ blobs)
      (blobs.foldl (considerCertificate verify providerKey unixTime) search) := by
  induction blobs generalizing seen search with
  | nil =>
      rw [List.append_nil]
      exact searched
  | cons blob rest ih =>
      rw [List.append_cons, List.foldl_cons]
      exact ih (searched.consider blob)

theorem searched_initial :
    Searched verify providerKey unixTime [] {} where
  unselected := fun _ _ impossible => absurd impossible List.not_mem_nil
  selected := by
    intro certificate impossible
    cases impossible
  timeInvalid := by
    constructor
    · intro impossible
      cases impossible
    · rintro ⟨_, impossible, _⟩
      exact absurd impossible List.not_mem_nil

/-! ### The choice -/

def certificateTimeError (unixTime : Nat) : Error :=
  { code := "DNSCRYPT_CERT_TIME"
    message :=
      text "Authenticated DNSCrypt certificate is not valid at system time " ++
        decimal unixTime }

def certificateError : Error :=
  .of "DNSCRYPT_CERT" "No valid supported DNSCrypt certificate"

theorem selectDnscryptCertificate_usable {blobs : List Packet}
    (usable : ∃ blob ∈ blobs, UsableBlob verify providerKey unixTime blob) :
    ∃ certificate,
      selectDnscryptCertificate verify blobs providerKey unixTime =
          .ok certificate ∧
        FirstBest verify providerKey unixTime blobs certificate := by
  have searched := searched_foldl blobs
    (@searched_initial verify providerKey unixTime)
  rw [List.nil_append] at searched
  obtain ⟨blob, member, here⟩ := usable
  unfold selectDnscryptCertificate
  dsimp only
  cases selected : (blobs.foldl
      (considerCertificate verify providerKey unixTime) {}).selected with
  | none =>
      exact absurd here (searched.unselected selected blob member)
  | some certificate =>
      exact ⟨certificate, rfl, searched.selected certificate selected⟩

theorem selectDnscryptCertificate_unusable {blobs : List Packet}
    (unusable : ∀ blob ∈ blobs,
      ¬ UsableBlob verify providerKey unixTime blob) :
    ((∃ blob ∈ blobs, GenuineBlob verify providerKey blob) →
        selectDnscryptCertificate verify blobs providerKey unixTime =
          .error (certificateTimeError unixTime)) ∧
      ((∀ blob ∈ blobs, ¬ GenuineBlob verify providerKey blob) →
        selectDnscryptCertificate verify blobs providerKey unixTime =
          .error certificateError) := by
  have searched := searched_foldl blobs
    (@searched_initial verify providerKey unixTime)
  rw [List.nil_append] at searched
  unfold selectDnscryptCertificate
  dsimp only
  generalize blobs.foldl (considerCertificate verify providerKey unixTime) {} =
    search at searched
  cases selected : search.selected with
  | some certificate =>
      obtain ⟨blob, member, usable, _⟩ :=
        (searched.selected certificate selected).chosen
      exact absurd usable (unusable blob member)
  | none =>
      constructor
      · rintro ⟨blob, member, genuine⟩
        have timed := searched.timeInvalid.mpr
          ⟨blob, member, genuine, unusable blob member⟩
        dsimp only
        rw [if_pos timed]
        rfl
      · intro foreign
        have untimed : ¬ search.timeInvalid = true := by
          intro timed
          obtain ⟨blob, member, genuine, _⟩ := searched.timeInvalid.mp timed
          exact foreign blob member genuine
        dsimp only
        rw [if_neg untimed]
        rfl

end Search

theorem selectDnscryptCertificate_perm {verify : SignatureCheck}
    {providerKey : Bytes} {unixTime : Nat} {blobs others : List Packet}
    (permuted : blobs.Perm others) :
    (selectDnscryptCertificate verify others providerKey unixTime).map
        (·.serial) =
      (selectDnscryptCertificate verify blobs providerKey unixTime).map
        (·.serial) := by
  by_cases usable : ∃ blob ∈ blobs,
      UsableBlob verify providerKey unixTime blob
  · have usableOther : ∃ blob ∈ others,
        UsableBlob verify providerKey unixTime blob := by
      obtain ⟨blob, member, here⟩ := usable
      exact ⟨blob, permuted.mem_iff.mp member, here⟩
    obtain ⟨first, selectedFirst, bestFirst⟩ :=
      selectDnscryptCertificate_usable usable
    obtain ⟨second, selectedSecond, bestSecond⟩ :=
      selectDnscryptCertificate_usable usableOther
    obtain ⟨firstBlob, firstMember, firstUsable, firstEq⟩ := bestFirst.chosen
    obtain ⟨secondBlob, secondMember, secondUsable, secondEq⟩ :=
      bestSecond.chosen
    have lower := bestFirst.maximal secondBlob
      (permuted.mem_iff.mpr secondMember) secondUsable
    have upper := bestSecond.maximal firstBlob
      (permuted.mem_iff.mp firstMember) firstUsable
    rw [← secondEq] at lower
    rw [← firstEq] at upper
    rw [selectedFirst, selectedSecond]
    exact congrArg Except.ok (Nat.le_antisymm lower upper)
  · have unusable : ∀ blob ∈ blobs,
        ¬ UsableBlob verify providerKey unixTime blob :=
      fun blob member here => usable ⟨blob, member, here⟩
    have unusableOther : ∀ blob ∈ others,
        ¬ UsableBlob verify providerKey unixTime blob :=
      fun blob member => unusable blob (permuted.mem_iff.mpr member)
    obtain ⟨timed, foreign⟩ := selectDnscryptCertificate_unusable unusable
    obtain ⟨timedOther, foreignOther⟩ :=
      selectDnscryptCertificate_unusable unusableOther
    by_cases genuine : ∃ blob ∈ blobs, GenuineBlob verify providerKey blob
    · obtain ⟨blob, member, here⟩ := genuine
      rw [timed ⟨blob, member, here⟩,
        timedOther ⟨blob, permuted.mem_iff.mp member, here⟩]
    · rw [foreign fun blob member here => genuine ⟨blob, member, here⟩,
        foreignOther fun blob member here =>
          genuine ⟨blob, permuted.mem_iff.mpr member, here⟩]

theorem selectDnscryptCertificate_filter {verify : SignatureCheck}
    {providerKey : Bytes} {unixTime : Nat} (blobs : List Packet) :
    selectDnscryptCertificate verify
        (blobs.filter fun blob =>
          verify (slice blob 8 64) (blob.drop 72) providerKey)
        providerKey unixTime =
      selectDnscryptCertificate verify blobs providerKey unixTime := by
  have same : ∀ search : CertificateSearch,
      (blobs.filter fun blob =>
          verify (slice blob 8 64) (blob.drop 72) providerKey).foldl
          (considerCertificate verify providerKey unixTime) search =
        blobs.foldl (considerCertificate verify providerKey unixTime)
          search := by
    induction blobs with
    | nil =>
        intro search
        rfl
    | cons blob rest ih =>
        intro search
        by_cases authentic :
            verify (slice blob 8 64) (blob.drop 72) providerKey = true
        · rw [List.filter_cons, if_pos authentic, List.foldl_cons,
            List.foldl_cons, ih]
        · have ignored : considerCertificate verify providerKey unixTime search
              blob = search := by
            unfold considerCertificate
            cases read : candidateCertificate verify providerKey blob with
            | none =>
                rfl
            | some candidate =>
                obtain ⟨genuine, _⟩ := candidateCertificate_eq_some.mp read
                exact absurd genuine.authentic authentic
          rw [List.filter_cons, if_neg authentic, List.foldl_cons, ignored,
            ih]
  unfold selectDnscryptCertificate
  rw [same]

/-- The choice is the first usable certificate of the highest serial, or the
failure that tells a certificate out of its time from none at all, whatever
the order of the blobs and whatever foreign ones stand among them. -/
theorem selectDnscryptCertificate_optimal (verify : SignatureCheck)
    (blobs : List Packet) (providerKey : Bytes) (unixTime : Nat) :
    ((∃ blob ∈ blobs, UsableBlob verify providerKey unixTime blob) →
      ∃ certificate,
        selectDnscryptCertificate verify blobs providerKey unixTime =
            .ok certificate ∧
          FirstBest verify providerKey unixTime blobs certificate) ∧
    ((∀ blob ∈ blobs, ¬ UsableBlob verify providerKey unixTime blob) →
      ((∃ blob ∈ blobs, GenuineBlob verify providerKey blob) →
          selectDnscryptCertificate verify blobs providerKey unixTime =
            .error (certificateTimeError unixTime)) ∧
        ((∀ blob ∈ blobs, ¬ GenuineBlob verify providerKey blob) →
          selectDnscryptCertificate verify blobs providerKey unixTime =
            .error certificateError)) ∧
    (∀ others, blobs.Perm others →
      (selectDnscryptCertificate verify others providerKey unixTime).map
          (·.serial) =
        (selectDnscryptCertificate verify blobs providerKey unixTime).map
          (·.serial)) ∧
    ∀ others,
      (others.filter fun blob =>
          verify (slice blob 8 64) (blob.drop 72) providerKey) =
        (blobs.filter fun blob =>
          verify (slice blob 8 64) (blob.drop 72) providerKey) →
      selectDnscryptCertificate verify others providerKey unixTime =
        selectDnscryptCertificate verify blobs providerKey unixTime := by
  refine ⟨selectDnscryptCertificate_usable, selectDnscryptCertificate_unusable,
    fun _ permuted => selectDnscryptCertificate_perm permuted, ?_⟩
  intro others same
  rw [← selectDnscryptCertificate_filter others, same,
    selectDnscryptCertificate_filter]

end NativeDNS
