/-
What the log panel shows at any time.

In every run the display holds the kept records that pass the current filters,
as a full rebuild would leave it.  A batch adjusts the display at its two ends,
so it relies on what the previous operation has left; every operation that
changes one of the five settings of `matches` ends in a rebuild.
-/
import NativeDNS.Gui.LogPanel

namespace NativeDNS

open FilteredWindow (Window Agrees push evict extend push_agrees push_retained)

variable {qt : PanelQt}

/-- The display is the filtering of the latest records by the current
filters. -/
structure Shows (qt : PanelQt) (received : List LogRecord)
    (panel : LogPanel) : Prop where
  retained : panel.records = received.rtake maximumLogRecords
  displayed : panel.view = panel.records.filter (panel.matches qt)
  counted : panel.visible = panel.view.length

namespace LogPanel

/-! ### Rebuilding -/

private theorem rebuildRecords_eq (records : List LogRecord) :
    ∀ panel : LogPanel,
      records.foldl (rebuildRecord qt) panel =
        { panel with
          view := panel.view ++ records.filter (panel.matches qt)
          visible := panel.visible +
            (records.filter (panel.matches qt)).length } := by
  induction records with
  | nil =>
      intro panel
      simp
  | cons record rest ih =>
      intro panel
      rw [List.foldl_cons, ih]
      unfold rebuildRecord
      by_cases passes : panel.matches qt record = true
      · have same : (panel.renderRecord record).matches qt = panel.matches qt :=
          rfl
        rw [if_pos passes, List.filter_cons_of_pos passes, same]
        simp only [renderRecord, List.append_assoc, List.singleton_append,
          List.length_cons]
        congr 1
        omega
      · rw [if_neg passes, List.filter_cons_of_neg passes]

theorem rebuild_eq (panel : LogPanel) :
    panel.rebuild qt =
      { panel with
        view := panel.records.filter (panel.matches qt)
        visible := (panel.records.filter (panel.matches qt)).length } := by
  unfold rebuild
  rw [rebuildRecords_eq]
  have same : { panel with view := [], visible := 0 }.matches qt =
      panel.matches qt :=
    rfl
  rw [same]
  simp only [List.nil_append, Int.zero_add]

theorem rebuild_shows {received : List LogRecord} {panel : LogPanel}
    (retained : panel.records = received.rtake maximumLogRecords) :
    Shows qt received (panel.rebuild qt) := by
  rw [rebuild_eq]
  exact ⟨retained, rfl, rfl⟩

/-! ### Appending -/

def window (panel : LogPanel) : Window LogRecord :=
  { retained := panel.records
    shown := panel.view }

theorem evictRecord_effect (panel : LogPanel) :
    (panel.evictRecord qt).window = evict (panel.matches qt) panel.window ∧
      (panel.evictRecord qt).matches qt = panel.matches qt := by
  unfold evictRecord evict window
  cases retained : panel.records with
  | nil =>
      simp only [retained, and_self]
  | cons front rest =>
      by_cases passes : panel.matches qt front = true
      · simp only [if_pos passes, true_and]
        rfl
      · simp only [passes]
        exact ⟨rfl, rfl⟩

theorem evictRecord_counted {panel : LogPanel}
    (displayed : panel.view = panel.records.filter (panel.matches qt))
    (counted : panel.visible = panel.view.length) :
    (panel.evictRecord qt).visible = (panel.evictRecord qt).view.length := by
  unfold evictRecord
  cases retained : panel.records with
  | nil =>
      exact counted
  | cons front rest =>
      rw [retained] at displayed
      by_cases passes : panel.matches qt front = true
      · rw [List.filter_cons_of_pos passes] at displayed
        rw [displayed, List.length_cons] at counted
        simp only [if_pos passes, displayed, List.tail_cons, counted]
        omega
      · simp only [passes]
        exact counted

theorem addRecord_effect (panel : LogPanel) (record : LogRecord) :
    ∀ added : LogPanel,
      added = (if { panel with
            records := panel.records ++ [record] }.matches qt record then
          { panel with
            records := panel.records ++ [record] }.renderRecord record
        else
          { panel with
            records := panel.records ++ [record] }) →
      added.window = extend (panel.matches qt) panel.window record ∧
        added.matches qt = panel.matches qt ∧
        (panel.visible = panel.view.length →
          added.visible = added.view.length) := by
  rintro added rfl
  have same : { panel with
      records := panel.records ++ [record] }.matches qt = panel.matches qt :=
    rfl
  rw [same]
  unfold extend window
  by_cases passes : panel.matches qt record = true
  · rw [if_pos passes, if_pos passes]
    refine ⟨rfl, rfl, fun counted => ?_⟩
    simp only [renderRecord, List.length_append, List.length_singleton, counted]
    rfl
  · rw [if_neg passes, if_neg passes]
    exact ⟨rfl, rfl, fun counted => counted⟩

theorem appendRecord_shows {received : List LogRecord} {panel : LogPanel}
    (shows_ : Shows qt received panel) (record : LogRecord) :
    Shows qt (received ++ [record]) (panel.appendRecord qt record) := by
  obtain ⟨retained, displayed, counted⟩ := shows_
  have agrees : Agrees (panel.matches qt) panel.window := displayed
  have latest := @push_retained _ maximumLogRecords (panel.matches qt)
    panel.window received (by decide) retained record
  have shown := @push_agrees _ maximumLogRecords _ _ record agrees
  obtain ⟨evicted, evictedMatches⟩ := @evictRecord_effect qt panel
  have evictedCounted := evictRecord_counted displayed counted
  unfold push at latest shown
  unfold appendRecord
  by_cases full : panel.records.length = maximumLogRecords
  · have fullWindow : panel.window.retained.length = maximumLogRecords := full
    rw [if_pos fullWindow] at latest shown
    simp only [if_pos full]
    obtain ⟨added, addedMatches, addedCounted⟩ :=
      @addRecord_effect qt (panel.evictRecord qt) record _ rfl
    rw [evicted, evictedMatches] at added
    rw [evictedMatches] at addedMatches
    rw [← added] at latest shown
    rw [← addedMatches] at shown
    exact ⟨latest, shown, addedCounted evictedCounted⟩
  · have roomWindow : panel.window.retained.length ≠ maximumLogRecords := full
    rw [if_neg roomWindow] at latest shown
    simp only [if_neg full]
    obtain ⟨added, addedMatches, addedCounted⟩ :=
      @addRecord_effect qt panel record _ rfl
    rw [← added] at latest shown
    rw [← addedMatches] at shown
    exact ⟨latest, shown, addedCounted counted⟩

theorem appendRecords_shows (records : List (LogRecord × Int)) :
    ∀ {received : List LogRecord} {panel : LogPanel},
      Shows qt received panel →
        Shows qt
          (received ++ records.map (fun item => keptRecord item.2 item.1))
          (panel.appendRecords qt records) := by
  induction records with
  | nil =>
      intro received panel shows_
      rw [List.map_nil, List.append_nil]
      exact shows_
  | cons first rest ih =>
      intro received panel shows_
      have later := ih (appendRecord_shows shows_ (keptRecord first.2 first.1))
      rw [List.append_assoc, List.singleton_append] at later
      exact later

/-! ### Settings -/

/-- An applied expression is followed by a rebuild of the same records, a
rejected one changes nothing. -/
theorem applyFilter_outcome (panel : LogPanel) :
    panel.applyFilter qt = (false, panel) ∨
      ∃ applied : LogPanel, applied.records = panel.records ∧
        panel.applyFilter qt = (true, applied.rebuild qt) := by
  unfold applyFilter
  split
  · exact .inl rfl
  · split
    · exact .inl rfl
    · refine .inr ⟨_, ?_, rfl⟩
      rfl

theorem applyFilter_shows {received : List LogRecord} {panel : LogPanel}
    (shows_ : Shows qt received panel) :
    Shows qt received (panel.applyFilter qt).2 := by
  rcases @applyFilter_outcome qt panel with rejected | ⟨applied, same, rebuilt⟩
  · rw [rejected]
    exact shows_
  · rw [rebuilt]
    exact rebuild_shows (same.trans shows_.retained)

/-- Showing the filters again takes over the draft when it can be compiled;
both ways the display is rebuilt. -/
theorem setFiltersShown_shows {received : List LogRecord} {panel : LogPanel}
    (shown stored : Bool) (shows_ : Shows qt received panel) :
    Shows qt received (panel.setFiltersShown qt shown stored).2 := by
  unfold setFiltersShown
  by_cases same : panel.filtersShown = shown
  · rw [if_pos same]
    exact shows_
  rw [if_neg same]
  by_cases failed : stored = false
  · simp only [if_pos failed]
    exact ⟨shows_.retained, shows_.displayed, shows_.counted⟩
  simp only [if_neg failed]
  by_cases hidden : shown = false
  · simp only [if_pos hidden]
    exact rebuild_shows shows_.retained
  simp only [if_neg hidden]
  rcases @applyFilter_outcome qt
      { panel with
        settings := { panel.settings with showFilters := shown }
        filtersShown := shown } with rejected | ⟨applied, sameRecords, rebuilt⟩
  · rw [rejected]
    exact rebuild_shows shows_.retained
  · rw [rebuilt]
    exact rebuild_shows (sameRecords.trans shows_.retained)

/-- A selection whose settings were not written shows what was shown before, and
any other is followed by a rebuild. -/
theorem selection_shows {received : List LogRecord} {unwritten selected : LogPanel}
    {stored : Bool} (before : Shows qt received unwritten)
    (retained : selected.records = received.rtake maximumLogRecords) :
    Shows qt received
      (if stored = false then (false, unwritten) else (true, selected.rebuild qt)).2 := by
  by_cases failed : stored = false
  · rw [if_pos failed]
    exact before
  · rw [if_neg failed]
    exact rebuild_shows retained

theorem setErrorsView_shows {received : List LogRecord} {panel : LogPanel}
    (view : LogErrorsView) (stored : Bool) (shows_ : Shows qt received panel) :
    Shows qt received (panel.setErrorsView qt view stored).2 :=
  selection_shows ⟨shows_.retained, shows_.displayed, shows_.counted⟩ shows_.retained

theorem setCommandsView_shows {received : List LogRecord} {panel : LogPanel}
    (view : LogCommandsView) (stored : Bool)
    (shows_ : Shows qt received panel) :
    Shows qt received (panel.setCommandsView qt view stored).2 :=
  selection_shows ⟨shows_.retained, shows_.displayed, shows_.counted⟩ shows_.retained

theorem setShownActions_shows {received : List LogRecord} {panel : LogPanel}
    (actions : List QText) (stored : Bool) (shows_ : Shows qt received panel) :
    Shows qt received (panel.setShownActions qt actions stored).2 :=
  selection_shows ⟨shows_.retained, shows_.displayed, shows_.counted⟩ shows_.retained

/-! ### Saved filters -/

/-- Storing the saved filters concerns neither the records nor the
settings of `matches`. -/
theorem persist_shows {received : List LogRecord} {panel : LogPanel}
    (filters : List SavedLogFilter) (stored : Bool)
    (shows_ : Shows qt received panel) :
    Shows qt received (panel.persist filters stored).2 := by
  unfold persist
  split
  · exact ⟨shows_.retained, shows_.displayed, shows_.counted⟩
  · exact ⟨shows_.retained, shows_.displayed, shows_.counted⟩

theorem saveFilter_shows {received : List LogRecord} {panel : LogPanel}
    (name : Option UText) (id : UText) (stored : Bool)
    (shows_ : Shows qt received panel) :
    Shows qt received (panel.saveFilter qt name id stored) := by
  unfold saveFilter
  dsimp only
  split
  · split
    · exact shows_
    · rename_i given _ _
      have after := persist_shows
        (panel.saved ++
          [{ id := id
             name := qt.trimmed given
             expression := qt.trimmed panel.input }]) stored shows_
      split
      · exact ⟨after.retained, after.displayed, after.counted⟩
      · exact after
  · exact shows_

theorem deleteFilter_shows {received : List LogRecord} {panel : LogPanel}
    (stored : Bool) (shows_ : Shows qt received panel) :
    Shows qt received (panel.deleteFilter stored) := by
  have after := persist_shows
    (panel.saved.filter (fun saved => saved.id ≠ panel.selectedId)) stored
    shows_
  unfold deleteFilter
  dsimp only
  split
  · exact ⟨after.retained, after.displayed, after.counted⟩
  · exact after

theorem manageFilters_shows {received : List LogRecord} {panel : LogPanel}
    (accepted : Option (List SavedLogFilter)) (stored : Bool)
    (shows_ : Shows qt received panel) :
    Shows qt received (panel.manageFilters qt accepted stored) := by
  unfold manageFilters
  cases accepted with
  | none =>
      exact shows_
  | some filters =>
      have after := persist_shows filters stored shows_
      dsimp only
      split
      · exact after
      · split
        · exact ⟨after.retained, after.displayed, after.counted⟩
        · split
          · exact applyFilter_shows
              ⟨after.retained, after.displayed, after.counted⟩
          · exact after

end LogPanel

/-! ### Runs -/

open LogPanel

theorem performPanel_shows {received : List LogRecord} {panel : LogPanel}
    (shows_ : Shows qt received panel) (operation : PanelOperation) :
    Shows qt (receivedAfter received operation)
      (performPanel qt panel operation) := by
  cases operation with
  | appendRecords records =>
      exact appendRecords_shows records shows_
  | clear =>
      exact ⟨(List.rtake_nil maximumLogRecords).symm, rfl, rfl⟩
  | editInput value =>
      exact ⟨shows_.retained, shows_.displayed, shows_.counted⟩
  | applyFilter =>
      exact applyFilter_shows shows_
  | setFiltersShown shown stored =>
      exact setFiltersShown_shows shown stored shows_
  | setErrorsView view stored =>
      exact setErrorsView_shows view stored shows_
  | setCommandsView view stored =>
      exact setCommandsView_shows view stored shows_
  | setShownActions actions stored =>
      exact setShownActions_shows actions stored shows_
  | chooseFilter saved =>
      exact applyFilter_shows
        ⟨shows_.retained, shows_.displayed, shows_.counted⟩
  | saveFilter name id stored =>
      exact saveFilter_shows name id stored shows_
  | deleteFilter stored =>
      exact deleteFilter_shows stored shows_
  | manageFilters accepted stored =>
      exact manageFilters_shows accepted stored shows_
  | paletteChange =>
      exact rebuild_shows shows_.retained

theorem Shows.rebuild_self {received : List LogRecord} {panel : LogPanel}
    (shows_ : Shows qt received panel) : panel.rebuild qt = panel := by
  rw [rebuild_eq, ← shows_.displayed, ← shows_.counted]

/-- From any stored settings, after any sequence of batches, filter edits and
changes of the selections, the panel keeps the latest 2000 records received
since it was cleared, and its display and count are those of a full rebuild. -/
theorem logPanel_shows (qt : PanelQt) (createId : Nat → UText)
    (settings : PanelSettings) (operations : List PanelOperation) :
    Shows qt (operations.foldl receivedAfter [])
        (operations.foldl (performPanel qt) (openLogPanel createId settings)) ∧
      (operations.foldl (performPanel qt)
          (openLogPanel createId settings)).rebuild qt =
        operations.foldl (performPanel qt) (openLogPanel createId settings) := by
  have run : ∀ (operations : List PanelOperation) {received : List LogRecord}
      {panel : LogPanel}, Shows qt received panel →
        Shows qt (operations.foldl receivedAfter received)
          (operations.foldl (performPanel qt) panel) := by
    intro operations
    induction operations with
    | nil =>
        intro received panel shows_
        exact shows_
    | cons operation rest ih =>
        intro received panel shows_
        exact ih (performPanel_shows shows_ operation)
  have opened : Shows qt [] (openLogPanel createId settings) :=
    ⟨(List.rtake_nil maximumLogRecords).symm, rfl, rfl⟩
  have final := run operations opened
  exact ⟨final, final.rebuild_self⟩

end NativeDNS
