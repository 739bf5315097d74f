/-
The files of the log and their rotation.

All calls to the file system succeed here; what a failure does to the sink is in
the module of the logger.  An open stream keeps what it was given until it is
flushed, so that the size of a file is only right behind a flush.  The branch for
file names with a time stamp depends on the clock and on the age of files, and is
a parameter.

Both terms of the sums of sizes are at most 1 GiB, the largest limit that
`configure_file` accepts, so that they are exact in 64 bits.
-/
import NativeDNS.Logging.Logger
import NativeDNS.Config.Saving

namespace NativeDNS

open ByteText (text byte pieces isDigit decimal decimal_injective)
open FileStore

/-! ### Lines -/

def generation (path : Path) : Nat → Path
  | 0 => path
  | index + 1 => path ++ (text "." ++ decimal (index + 1))

/-! ### The code -/

structure FileSink where
  path : Path
  maximumBytes : UInt64
  retainedFiles : UInt32

def shiftGeneration (path : Path) (index : Nat) (files : FileStore) : FileStore :=
  let destination := generation path index
  let source := generation path (index - 1)
  if (files source).isSome = true then
    move source destination (put destination none files)
  else files

def shiftGenerations (path : Path) : Nat → FileStore → FileStore
  | 0, files => files
  | index + 1, files =>
      shiftGenerations path index (shiftGeneration path (index + 1) files)

section Sink

variable (renewTimestamped : FileSink → FileStore → FileStore × Path)
  (localTime : Int64 → Bytes)

/-- The variables of `write_file_batch`; of an open stream, what it has not
written out. -/
structure BatchState where
  sink : FileSink
  files : FileStore
  stream : Option Bytes := none
  current : Nat

def BatchState.closed (state : BatchState) : FileStore :=
  match state.stream with
  | none => state.files
  | some pending =>
      put state.sink.path
        (some ((state.files state.sink.path).getD [] ++ pending)) state.files

def BatchState.opened (state : BatchState) : BatchState :=
  match state.stream with
  | none =>
      { state with
        files := put state.sink.path
          (some ((state.files state.sink.path).getD [])) state.files
        stream := some [] }
  | some _ => state

def BatchState.append (state : BatchState) (line : Bytes) : BatchState :=
  { state with
    stream := state.stream.map (· ++ line)
    current := state.current + line.length }

end Sink

/-! ### Names of generations -/

theorem generation_injective (path : Path) : Function.Injective (generation path) := by
  intro left right same
  cases left with
  | zero =>
      cases right with
      | zero =>
          rfl
      | succ right =>
          have impossible : text "." ++ decimal (right + 1) = [] :=
            List.self_eq_append_right.mp same
          exact absurd (List.append_eq_nil_iff.mp impossible).1 (by decide)
  | succ left =>
      cases right with
      | zero =>
          have impossible : text "." ++ decimal (left + 1) = [] :=
            List.append_right_eq_self.mp same
          exact absurd (List.append_eq_nil_iff.mp impossible).1 (by decide)
      | succ right =>
          exact decimal_injective
            (List.append_cancel_left (List.append_cancel_left same))

theorem generation_ne {path : Path} {left right : Nat} (different : left ≠ right) :
    generation path left ≠ generation path right := fun same =>
  different (generation_injective path same)

/-! ### One rotation -/

section Shift

variable {path : Path}

theorem shiftGeneration_succ (path : Path) (index : Nat) (files : FileStore) :
    shiftGeneration path (index + 1) files =
      if (files (generation path index)).isSome = true then
        move (generation path index) (generation path (index + 1))
          (put (generation path (index + 1)) none files)
      else files :=
  rfl

theorem shiftGeneration_other {other : Path} {index : Nat}
    (notSource : other ≠ generation path index)
    (notDestination : other ≠ generation path (index + 1)) (files : FileStore) :
    shiftGeneration path (index + 1) files other = files other := by
  rw [shiftGeneration_succ]
  split
  · unfold move
    rw [put_other notSource, put_other notDestination, put_other notDestination]
  · rfl

theorem shiftGeneration_destination {index : Nat} {files : FileStore}
    (contiguous : (files (generation path (index + 1))).isSome = true →
      (files (generation path index)).isSome = true) :
    shiftGeneration path (index + 1) files (generation path (index + 1)) =
      files (generation path index) := by
  have apart : generation path index ≠ generation path (index + 1) :=
    generation_ne (Nat.ne_of_lt (Nat.lt_succ_self index))
  rw [shiftGeneration_succ]
  split
  · unfold move
    rw [put_other apart.symm, put_same, put_other apart]
  · rename_i missing
    have noSource : files (generation path index) = none :=
      Option.not_isSome_iff_eq_none.mp missing
    rw [noSource]
    exact Option.not_isSome_iff_eq_none.mp fun present =>
      missing (contiguous present)

theorem shiftGeneration_source (path : Path) (index : Nat) (files : FileStore) :
    shiftGeneration path (index + 1) files (generation path index) = none := by
  rw [shiftGeneration_succ]
  split
  · exact put_same ..
  · rename_i missing
    exact Option.not_isSome_iff_eq_none.mp missing

theorem shiftGenerations_newest (path : Path) {count : Nat} (some_kept : 0 < count)
    (files : FileStore) : shiftGenerations path count files path = none := by
  induction count generalizing files with
  | zero =>
      cases some_kept
  | succ count ih =>
      rw [shiftGenerations]
      cases count with
      | zero =>
          exact shiftGeneration_source path 0 files
      | succ count =>
          exact ih (Nat.succ_pos count) _

theorem shiftGenerations_spec (path : Path) (count : Nat) {files : FileStore}
    (contiguous : ∀ index, index + 1 = count →
      (files (generation path (index + 1))).isSome = true →
      (files (generation path index)).isSome = true) :
    (∀ index, index < count →
      shiftGenerations path count files (generation path (index + 1)) =
        files (generation path index)) ∧
    (∀ other, (∀ index, index ≤ count → other ≠ generation path index) →
      shiftGenerations path count files other = files other) := by
  induction count generalizing files with
  | zero =>
      exact ⟨fun index impossible => absurd impossible (Nat.not_lt_zero index),
        fun _ _ => rfl⟩
  | succ count ih =>
      -- Behind the first turn nothing stands at the destination of the next.
      have hole := shiftGeneration_source path count files
      obtain ⟨shifted, others⟩ := @ih (shiftGeneration path (count + 1) files) (by
        intro index same present
        rw [same, hole] at present
        cases present)
      have kept : ∀ index, index < count →
          shiftGeneration path (count + 1) files (generation path index) =
            files (generation path index) := fun index below =>
        shiftGeneration_other (generation_ne (Nat.ne_of_lt below))
          (generation_ne (by omega)) files
      refine ⟨?_, ?_⟩
      · intro index below
        rw [shiftGenerations]
        rcases Nat.lt_or_eq_of_le (Nat.le_of_lt_succ below) with lower | top
        · rw [shifted index lower, kept index lower]
        · rw [top, others _ fun other within => generation_ne (by omega),
            shiftGeneration_destination (contiguous count rfl)]
      · intro other outside
        rw [shiftGenerations,
          others other fun index within => outside index (Nat.le_succ_of_le within),
          shiftGeneration_other (outside count (Nat.le_succ count))
            (outside (count + 1) (Nat.le_refl _))]

end Shift

/-! ### What a batch comes to -/

def storedBytes (files : FileStore) (path : Path) : Bytes :=
  (files path).getD []

def appendLine (path : Path) (line : Bytes) (files : FileStore) : FileStore :=
  put path (some (storedBytes files path ++ line)) files

theorem storedBytes_appendLine (path : Path) (line : Bytes) (files : FileStore) :
    storedBytes (appendLine path line files) path = storedBytes files path ++ line := by
  unfold appendLine
  rw [storedBytes, put_same, Option.getD_some]

theorem appendLine_older (path : Path) (line : Bytes) (files : FileStore)
    (index : Nat) :
    appendLine path line files (generation path (index + 1)) =
      files (generation path (index + 1)) :=
  put_other (generation_ne (Nat.succ_ne_zero index)) _ files

section Batch

variable (renewTimestamped : FileSink → FileStore → FileStore × Path)
  (localTime : Int64 → Bytes) {sink : FileSink}

end Batch

/-! ### The history in the files -/

def generations (path : Path) : Nat → List Path
  | 0 => [path]
  | index + 1 => generation path (index + 1) :: generations path index

section History

variable {path : Path} {files : FileStore}

def Contiguous (path : Path) (count : Nat) (files : FileStore) : Prop :=
  ∀ index, index < count → (files (generation path (index + 1))).isSome = true →
    (files (generation path index)).isSome = true

theorem contents_shift {count : Nat}
    (contiguous : Contiguous path (count + 1) files) :
    (generations path (count + 1)).map
        (storedBytes (shiftGenerations path (count + 1) files)) =
      (generations path count).map (storedBytes files) ++ [[]] := by
  obtain ⟨shifted, _⟩ := shiftGenerations_spec path (count + 1) (by
    intro index same present
    exact contiguous index (by omega) present)
  have newest := shiftGenerations_newest path (Nat.succ_pos count) files
  have moved : ∀ index, index ≤ count →
      (generations path (index + 1)).map
          (storedBytes (shiftGenerations path (count + 1) files)) =
        (generations path index).map (storedBytes files) ++ [[]] := by
    intro index within
    induction index with
    | zero =>
        simp only [generations, List.map_cons, List.map_nil, storedBytes,
          shifted 0 (Nat.succ_pos count), newest, Option.getD_none]
        rfl
    | succ index ih =>
        have behind := ih (Nat.le_of_succ_le within)
        rw [generations, List.map_cons, behind, generations, List.map_cons,
          List.cons_append, storedBytes, shifted (index + 1) (by omega)]
        rfl
  exact moved count (Nat.le_refl count)

theorem contents_append (path : Path) (files : FileStore) (line : Bytes)
    (count : Nat) :
    ∃ older, (generations path count).map (storedBytes files) =
        older ++ [storedBytes files path] ∧
      (generations path count).map (storedBytes (appendLine path line files)) =
        older ++ [storedBytes files path ++ line] := by
  induction count with
  | zero =>
      refine ⟨[], rfl, ?_⟩
      rw [generations, List.map_singleton, storedBytes_appendLine, List.nil_append]
  | succ count ih =>
      obtain ⟨older, before, after⟩ := ih
      refine ⟨storedBytes files (generation path (count + 1)) :: older, ?_, ?_⟩
      · rw [generations, List.map_cons, before, List.cons_append]
      · rw [generations, List.map_cons, after, List.cons_append, storedBytes,
          appendLine_older]
        rfl

end History

/-- The kept files hold whole lines, the last ones of those written. -/
def KeepsLines (path : Path) (count : Nat) (lines : List Bytes)
    (files : FileStore) : Prop :=
  ∃ (lost : List Bytes) (segments : List (List Bytes)),
    lines = lost ++ segments.flatten ∧
    (generations path count).map (storedBytes files) = segments.map List.flatten

structure HistoryInvariant (sink : FileSink) (lines : List Bytes)
    (files : FileStore) : Prop where
  contiguous : Contiguous sink.path sink.retainedFiles.toNat files
  bounded : ∀ index, index ≤ sink.retainedFiles.toNat →
    (storedBytes files (generation sink.path index)).length ≤
      sink.maximumBytes.toNat
  keeps : KeepsLines sink.path sink.retainedFiles.toNat lines files

section Steps

variable {path : Path} {lines : List Bytes} {files : FileStore} {line : Bytes}

theorem KeepsLines.shift {count : Nat}
    (keeps : KeepsLines path (count + 1) lines files)
    (contiguous : Contiguous path (count + 1) files) :
    KeepsLines path (count + 1) lines (shiftGenerations path (count + 1) files) := by
  obtain ⟨lost, segments, whole, held⟩ := keeps
  rw [generations, List.map_cons] at held
  obtain ⟨oldest, rest, rfl, _, restHeld⟩ := List.map_eq_cons_iff.mp held.symm
  refine ⟨lost ++ oldest, rest ++ [[]], ?_, ?_⟩
  · rw [whole, List.flatten_cons, List.flatten_append, List.flatten_singleton,
      List.append_nil, List.append_assoc]
  · rw [contents_shift contiguous, ← restHeld, List.map_append]
    rfl

theorem KeepsLines.append {count : Nat} (keeps : KeepsLines path count lines files)
    (line : Bytes) :
    KeepsLines path count (lines ++ [line]) (appendLine path line files) := by
  obtain ⟨lost, segments, whole, held⟩ := keeps
  obtain ⟨older, before, after⟩ := contents_append path files line count
  rw [before] at held
  obtain ⟨olderSegments, newest, rfl, olderHeld, newestHeld⟩ :=
    List.map_eq_append_iff.mp held.symm
  obtain ⟨segment, behind, rfl, segmentHeld, nothing⟩ :=
    List.map_eq_cons_iff.mp newestHeld
  obtain rfl := List.map_eq_nil_iff.mp nothing
  refine ⟨lost, olderSegments ++ [segment ++ [line]], ?_, ?_⟩
  · rw [whole, List.flatten_append, List.flatten_append, List.flatten_singleton,
      List.flatten_singleton, List.append_assoc, List.append_assoc]
  · rw [after, List.map_append, olderHeld, List.map_singleton, List.flatten_append,
      List.flatten_singleton, segmentHeld]

theorem Contiguous.append {count : Nat}
    (contiguous : ∀ index, index < count →
      (files (generation path (index + 1))).isSome = true →
      index = 0 ∨ (files (generation path index)).isSome = true)
    (line : Bytes) : Contiguous path count (appendLine path line files) := by
  have newest : (appendLine path line files path).isSome = true := by
    rw [appendLine, put_same]
    rfl
  intro index below present
  rw [appendLine_older] at present
  cases index with
  | zero =>
      exact newest
  | succ index =>
      rw [appendLine_older]
      exact (contiguous (index + 1) below present).resolve_left
        (Nat.succ_ne_zero index)

end Steps

section Lines

variable {sink : FileSink} {lines : List Bytes} {files : FileStore}

theorem HistoryInvariant.initial
    (fresh : ∀ index, index ≤ sink.retainedFiles.toNat →
      files (generation sink.path index) = none) :
    HistoryInvariant sink [] files :=
  { contiguous := by
      intro index below present
      rw [fresh (index + 1) below] at present
      cases present
    bounded := by
      intro index within
      rw [storedBytes, fresh index within]
      exact Nat.zero_le _
    keeps := by
      refine ⟨[], (generations sink.path sink.retainedFiles.toNat).map fun _ => [],
        ?_, ?_⟩
      · simp
      · have empty : ∀ count, count ≤ sink.retainedFiles.toNat →
            (generations sink.path count).map (storedBytes files) =
              (generations sink.path count).map fun _ => [] := by
          intro count within
          induction count with
          | zero =>
              have missing : files sink.path = none := fresh 0 within
              rw [generations, List.map_singleton, storedBytes, missing]
              rfl
          | succ count ih =>
              rw [generations, List.map_cons, List.map_cons,
                ih (Nat.le_of_succ_le within), storedBytes, fresh (count + 1) within]
              rfl
        rw [empty _ (Nat.le_refl _), List.map_map]
        rfl }

end Lines

end NativeDNS
