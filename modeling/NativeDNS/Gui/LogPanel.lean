/-
The log panel of the window: its filters, and the records it shows.

The panel keeps the latest records and hands the ones that pass its filters to
the display.  New records are added to the display without rendering it again;
everything that changes what passes renders it from the kept records.
-/
import NativeDNS.Gui.FilterParser
import NativeDNS.Library.FilteredWindow

namespace NativeDNS

open LogFilter (FilterQt)

/-! ### The parts of the panel -/

inductive LogCommandsView where
  | withRecords
  | only
  | withoutCommands
  deriving DecidableEq

inductive LogErrorsView where
  | withRecords
  | only
  | withoutErrors
  deriving DecidableEq

structure SavedLogFilter where
  id : UText
  name : UText
  expression : UText
  deriving DecidableEq

structure PanelSettings where
  showFilters : Bool := true
  logActions : List QText := []
  logCommands : QText := qText "with"
  logErrors : QText := qText "with"
  logFilters : List SavedLogFilter := []

/-- What the panel asks Qt for. -/
structure PanelQt where
  filter : FilterQt
  characters : QText → UText
  /-- What an input field of 4096 units keeps of a text. -/
  inputText : UText → UText

def PanelQt.filterRecord (qt : PanelQt) (record : LogRecord) :
    LogFilter.Record :=
  { code := qt.characters record.code
    message := qt.characters record.message
    address := qt.characters record.address
    dnsType := qt.characters record.dnsType
    rule := qt.characters record.rule
    action := qt.characters record.action
    error := record.error }

def PanelQt.trimmed (qt : PanelQt) (value : UText) : UText :=
  ((value.dropWhile qt.filter.isSpace).reverse.dropWhile
    qt.filter.isSpace).reverse

/-- The panel; `view` holds the records its display has been given and not
been told to remove. -/
structure LogPanel where
  settings : PanelSettings := {}
  input : UText := []
  saved : List SavedLogFilter := []
  selectedId : UText := []
  appliedExpression : UText := []
  filter : Option LogFilter.Node := none
  shownActions : List QText := []
  commandsView : LogCommandsView := .withRecords
  errorsView : LogErrorsView := .withRecords
  records : List LogRecord := []
  view : List LogRecord := []
  visible : Int := 0
  filtersShown : Bool := true

def maximumLogRecords : Nat := 2000

/-! ### Opening -/

def actionKeys : List QText :=
  [qText "process", qText "block", qText "bypass"]

/-- The stored filters; an identifier that is missing or taken is replaced. -/
def loadSaved (createId : Nat → UText) (stored : List SavedLogFilter) :
    List SavedLogFilter :=
  (stored.take 256).foldl
    (fun filters value =>
      filters ++
        [{ value with
            id :=
              if value.id = [] ∨ value.id ∈ filters.map (·.id) then
                createId filters.length
              else value.id }])
    []

def openLogPanel (createId : Nat → UText) (settings : PanelSettings) :
    LogPanel :=
  { settings := settings
    saved := loadSaved createId settings.logFilters
    filtersShown := settings.showFilters
    shownActions := settings.logActions.filter (· ∈ actionKeys)
    commandsView :=
      if settings.logCommands = qText "only" then .only
      else if settings.logCommands = qText "none" then .withoutCommands
      else .withRecords
    errorsView :=
      if settings.logErrors = qText "only" then .only
      else if settings.logErrors = qText "none" then .withoutErrors
      else .withRecords }

/-! ### What passes -/

/-- Events of queries and packets that can lack routing metadata. -/
def queryEvents : List QText :=
  [qText "WINDIVERT_RULE_FAST_PATH", qText "WINDIVERT_TCP_REFLECT",
    qText "WINDIVERT_UPSTREAM_BYPASS", qText "TCP_PROXY_ACCEPT",
    qText "TCP_PROXY_REJECT", qText "TCP_PROXY_IO", qText "TCP_PROXY_BUSY",
    qText "CAPTIVE_PORTAL_BYPASS"]

def isTechnicalLogRecord (record : LogRecord) : Bool :=
  if record.address ≠ [] ∨ record.dnsType ≠ [] ∨ record.action ≠ [] then false
  else if record.code = qText "DNS_CACHE_CLEARED" then true
  else !(qText "DNS_").isPrefixOf record.code &&
    !queryEvents.contains record.code

namespace LogPanel

variable (qt : PanelQt)

/-- Whether a record passes the filters, from the five settings of the
panel. -/
def «matches» (panel : LogPanel) (record : LogRecord) : Bool :=
  if panel.filtersShown &&
      !LogFilter.matchesFilter qt.filter (qt.filterRecord record) panel.filter then
    false
  else if (panel.errorsView == .only && !record.error) ||
      (panel.errorsView == .withoutErrors && record.error) then
    false
  else if isTechnicalLogRecord record then
    panel.commandsView != .withoutCommands
  else
    panel.commandsView != .only &&
      (panel.shownActions.isEmpty || panel.shownActions.contains record.action)

/-! ### The display -/

def renderRecord (panel : LogPanel) (record : LogRecord) : LogPanel :=
  { panel with
    view := panel.view ++ [record]
    visible := panel.visible + 1 }

def rebuildRecord (panel : LogPanel) (record : LogRecord) : LogPanel :=
  if panel.matches qt record then panel.renderRecord record else panel

/-- Empty the display and render every kept record that passes. -/
def rebuild (panel : LogPanel) : LogPanel :=
  panel.records.foldl (rebuildRecord qt)
    { panel with
      view := []
      visible := 0 }

def clear (panel : LogPanel) : LogPanel :=
  { panel with
    records := []
    view := []
    visible := 0 }

/-- A record as it is kept: on one line, with a valid time. -/
def keptRecord (now : Int) (record : LogRecord) : LogRecord :=
  { record with
    message := record.message.map (fun unit =>
      if unit = 10 ∨ unit = 13 then 32 else unit)
    timestamp := some (record.timestamp.getD now) }

/-- Forget the oldest record, in the display too when it passes. -/
def evictRecord (panel : LogPanel) : LogPanel :=
  match panel.records with
  | [] => panel
  | front :: rest =>
      let panel :=
        if panel.matches qt front then
          { panel with
            view := panel.view.tail
            visible := panel.visible - 1 }
        else panel
      { panel with records := rest }

def appendRecord (panel : LogPanel) (record : LogRecord) : LogPanel :=
  let panel :=
    if panel.records.length = maximumLogRecords then panel.evictRecord qt
    else panel
  let panel := { panel with records := panel.records ++ [record] }
  if panel.matches qt record then panel.renderRecord record else panel

def appendRecords (records : List (LogRecord × Int)) (panel : LogPanel) :
    LogPanel :=
  records.foldl
    (fun panel received =>
      panel.appendRecord qt (keptRecord received.2 received.1))
    panel

/-! ### Filters -/

def selectedAfter (panel : LogPanel) (applied : UText) : UText :=
  if ∃ saved ∈ panel.saved,
      saved.id = panel.selectedId ∧ saved.expression = applied then
    panel.selectedId
  else
    match panel.saved.find? (fun saved => saved.expression = applied) with
    | some saved => saved.id
    | none => []

/-- Apply the expression in the input field, when the filters are shown and it
can be compiled. -/
def applyFilter (panel : LogPanel) : Bool × LogPanel :=
  if panel.filtersShown = false then (false, panel)
  else
    match LogFilter.compile qt.filter panel.input with
    | .error _ => (false, panel)
    | .ok filter =>
        let applied := qt.trimmed panel.input
        (true,
          { panel with
            filter := filter
            appliedExpression := applied
            selectedId := panel.selectedAfter applied }.rebuild qt)

/-- Show or hide the filters; `stored` says whether the settings could be
written. -/
def setFiltersShown (shown stored : Bool) (panel : LogPanel) :
    Bool × LogPanel :=
  if panel.filtersShown = shown then (true, panel)
  else
    let panel :=
      { panel with
        settings := { panel.settings with showFilters := shown } }
    if stored = false then (false, panel)
    else
      let panel := { panel with filtersShown := shown }
      if shown = false then (true, panel.rebuild qt)
      else
        let (applied, after) := panel.applyFilter qt
        if applied then (true, after) else (true, after.rebuild qt)

def setErrorsView (view : LogErrorsView) (stored : Bool) (panel : LogPanel) :
    Bool × LogPanel :=
  let key :=
    match view with
    | .only => qText "only"
    | .withoutErrors => qText "none"
    | .withRecords => qText "with"
  let panel :=
    { panel with
      settings := { panel.settings with logErrors := key } }
  if stored = false then (false, panel)
  else (true, { panel with errorsView := view }.rebuild qt)

def setCommandsView (view : LogCommandsView) (stored : Bool)
    (panel : LogPanel) : Bool × LogPanel :=
  let key :=
    match view with
    | .only => qText "only"
    | .withoutCommands => qText "none"
    | .withRecords => qText "with"
  let panel :=
    { panel with
      settings := { panel.settings with logCommands := key } }
  if stored = false then (false, panel)
  else (true, { panel with commandsView := view }.rebuild qt)

def setShownActions (actions : List QText) (stored : Bool)
    (panel : LogPanel) : Bool × LogPanel :=
  let selected := actionKeys.filter (· ∈ actions)
  let panel :=
    { panel with
      settings := { panel.settings with logActions := selected } }
  if stored = false then (false, panel)
  else (true, { panel with shownActions := selected }.rebuild qt)

/-! ### Saved filters -/

def persist (filters : List SavedLogFilter) (stored : Bool)
    (panel : LogPanel) : Bool × LogPanel :=
  let panel :=
    { panel with
      settings := { panel.settings with logFilters := filters } }
  if stored = false then (false, panel)
  else (true, { panel with saved := filters })

/-- Save the filter in the input field under the name that is given in the
dialog, if any. -/
def saveFilter (name : Option UText) (id : UText) (stored : Bool)
    (panel : LogPanel) : LogPanel :=
  let expression := qt.trimmed panel.input
  match LogFilter.compile qt.filter expression, name with
  | .ok _, some name =>
      if panel.saved.length ≥ 256 ∨ qt.trimmed name = [] then panel
      else
        let (persisted, after) :=
          panel.persist
            (panel.saved ++
              [{ id := id
                 name := qt.trimmed name
                 expression := expression }])
            stored
        if persisted then { after with selectedId := id } else after
  | _, _ => panel

def deleteFilter (stored : Bool) (panel : LogPanel) : LogPanel :=
  let (persisted, after) :=
    panel.persist
      (panel.saved.filter (fun saved => saved.id ≠ panel.selectedId)) stored
  if persisted then { after with selectedId := [] } else after

/-- Take over the filters of the accepted dialog; the selected one is applied
again when the input field still holds what was applied. -/
def manageFilters (accepted : Option (List SavedLogFilter)) (stored : Bool)
    (panel : LogPanel) : LogPanel :=
  match accepted with
  | none => panel
  | some filters =>
      let (persisted, after) := panel.persist filters stored
      if persisted = false then after
      else
        match after.saved.find? (fun saved => saved.id = after.selectedId) with
        | none => { after with selectedId := [] }
        | some selected =>
            if qt.trimmed after.input = after.appliedExpression then
              ({ after with
                  input := qt.inputText selected.expression }.applyFilter qt).2
            else after

def chooseFilter (saved : SavedLogFilter) (panel : LogPanel) : LogPanel :=
  ({ panel with
      selectedId := saved.id
      input := qt.inputText saved.expression }.applyFilter qt).2

def editInput (value : UText) (panel : LogPanel) : LogPanel :=
  { panel with
    input := qt.inputText value
    selectedId := [] }

end LogPanel

/-! ### Runs -/

inductive PanelOperation where
  | appendRecords (records : List (LogRecord × Int))
  | clear
  | editInput (value : UText)
  | applyFilter
  | setFiltersShown (shown stored : Bool)
  | setErrorsView (view : LogErrorsView) (stored : Bool)
  | setCommandsView (view : LogCommandsView) (stored : Bool)
  | setShownActions (actions : List QText) (stored : Bool)
  | chooseFilter (saved : SavedLogFilter)
  | saveFilter (name : Option UText) (id : UText) (stored : Bool)
  | deleteFilter (stored : Bool)
  | manageFilters (accepted : Option (List SavedLogFilter)) (stored : Bool)
  | paletteChange

def performPanel (qt : PanelQt) (panel : LogPanel) :
    PanelOperation → LogPanel
  | .appendRecords records => panel.appendRecords qt records
  | .clear => panel.clear
  | .editInput value => panel.editInput qt value
  | .applyFilter => (panel.applyFilter qt).2
  | .setFiltersShown shown stored => (panel.setFiltersShown qt shown stored).2
  | .setErrorsView view stored => (panel.setErrorsView qt view stored).2
  | .setCommandsView view stored => (panel.setCommandsView qt view stored).2
  | .setShownActions actions stored =>
      (panel.setShownActions qt actions stored).2
  | .chooseFilter saved => panel.chooseFilter qt saved
  | .saveFilter name id stored => panel.saveFilter qt name id stored
  | .deleteFilter stored => panel.deleteFilter stored
  | .manageFilters accepted stored => panel.manageFilters qt accepted stored
  | .paletteChange => panel.rebuild qt

/-- The records received since the last clear, as they are kept. -/
def receivedAfter (received : List LogRecord) :
    PanelOperation → List LogRecord
  | .appendRecords records =>
      received ++ records.map (fun item => LogPanel.keptRecord item.2 item.1)
  | .clear => []
  | _ => received

end NativeDNS
