/-
Transparent interception on Linux: an nftables redirect to the local proxy.

`start`, `stop` and `status` hold one mutex, so that `status` is read between
two calls only.  While a call waits for the proxy, or for a shell command, the
loops of the proxy go on.  `nft delete table` succeeds when the table exists.
Logging is left out.
-/
import NativeDNS.Listener.Proxy
import NativeDNS.Rules.Validation

namespace NativeDNS

open ByteText (text)

/-! ### The packet filter -/

inductive NftRule where
  | returnMarked (mark : UInt32)
  | redirect (stream : Bool) (port target : UInt16)
  deriving DecidableEq

/-- The table `inet nativedns`. -/
structure NftTable where
  chain : Bool := false
  rules : List NftRule := []
  deriving DecidableEq

inductive NftCommand where
  | addTable
  | addChain
  | addRule (rule : NftRule)
  deriving DecidableEq

def NftCommand.run (table : Option NftTable) : NftCommand → Option NftTable
  | .addTable => some (table.getD {})
  | .addChain => table.map fun table => { table with chain := true }
  | .addRule rule => table.map fun table => { table with rules := table.rules ++ [rule] }

def upstreamMark : UInt32 := 0x4e444e53

def redirectRules (intercepted port : UInt16) : List NftRule :=
  [.returnMarked upstreamMark, .redirect false intercepted port,
    .redirect true intercepted port]

/-- The commands of the setup script, joined by `&&`. -/
def setupScript (intercepted port : UInt16) : List NftCommand :=
  [.addTable, .addChain] ++ (redirectRules intercepted port).map .addRule

/-! ### The backend -/

inductive NftStart where
  | options
  | privileges
  | findNft
  /-- In the `start` of the proxy. -/
  | proxy
  | port
  | deleteStale (port : UInt16)
  | script (port : UInt16) (left : List NftCommand)
  /-- In the `stop` of the proxy, after the script has failed. -/
  | undoProxy
  | undoTable
  deriving DecidableEq

inductive NftCall where
  | free
  | starting (point : NftStart)
  | deleting
  /-- In the `stop` of the proxy. -/
  | stopping
  deriving DecidableEq

structure LinuxNftInterception where
  config : Config
  intercepted : UInt16
  status : InterceptionStatus := {}
  call : NftCall := .free
  proxy : Proxy := {}
  table : Option NftTable := none

inductive NftAction where
  | start
  | stop
  | reload (config : Config)
  /-- The next part of a call; a command or a test may fail. -/
  | proceed (succeeded : Bool)
  | proxy (outcome : Outcome)
  | loop (listener : Listener) (event : LoopEvent Unit)

namespace LinuxNftInterception

def notImplemented : Error :=
  .of "NOT_IMPLEMENTED"
    "Linux interception does not implement injected-packet selection or TCP/53 blocking"

def elevationRequired : Error :=
  .of "ELEVATION_REQUIRED"
    "Linux transparent interception requires root/CAP_NET_ADMIN CoreHost privileges"

def nftNotFound : Error :=
  .of "NFT_NOT_FOUND"
    "nftables command is required for transparent Linux interception"

def noPort : Error :=
  .of "INTERCEPTION" "Local proxy did not expose a port"

def setupFailed : Error :=
  .of "NFT_SETUP" "Failed to install NativeDNS nftables redirect rules"

def checkOptions (config : Config) : Checked Unit := do
  let options ← runtimeOptions config
  if options.interceptOthers = true ∨ options.blockTcp53 = true then
    throw notImplemented

def goes (backend : LinuxNftInterception) (point : NftStart) : LinuxNftInterception :=
  { backend with call := .starting point }

/-- `start` catches an error and throws it on. -/
def raise (backend : LinuxNftInterception) (error : Error) : LinuxNftInterception :=
  { backend with
    status :=
      { backend.status with
        state := .error
        errorCode := error.code
        errorMessage := error.message }
    call := .free }

def callProxy (backend : LinuxNftInterception) (call : ProxyCall) :
    LinuxNftInterception :=
  { backend with proxy := backend.proxy.goes call }

/-- The next part of `start`. -/
def startStep (backend : LinuxNftInterception) (succeeded : Bool) :
    NftStart → Option LinuxNftInterception
  | .options =>
      some
        (match checkOptions backend.config with
        | .ok () => backend.goes .privileges
        | .error error => backend.raise error)
  | .privileges =>
      some (if succeeded then backend.goes .findNft else backend.raise elevationRequired)
  | .findNft =>
      some
        (if succeeded then (backend.goes .proxy).callProxy (.starting .entered)
        else backend.raise nftNotFound)
  | .proxy =>
      if backend.proxy.call = .free then
        match backend.proxy.thrown with
        | none => some (backend.goes .port)
        | some (.error error) => some (backend.raise error)
        -- Only errors of the core are caught.
        | some (.exception _) => some { backend with call := .free }
      else none
  | .port =>
      some
        (if backend.proxy.boundPort = 0 then backend.raise noPort
        else backend.goes (.deleteStale backend.proxy.boundPort))
  | .deleteStale port =>
      some { backend with
        table := none
        call := .starting (.script port (setupScript backend.intercepted port)) }
  | .script port (command :: left) =>
      some
        (if succeeded then
          { backend with
            table := command.run backend.table
            call := .starting (.script port left) }
        else (backend.goes .undoProxy).callProxy .stopEntered)
  | .script port [] =>
      some { backend with
        status :=
          { state := .running
            port := port
            transparent := true
            udp := true
            tcp := true }
        call := .free }
  | .undoProxy =>
      if backend.proxy.call = .free then some (backend.goes .undoTable) else none
  | .undoTable => some ({ backend with table := none }.raise setupFailed)

def proceed (backend : LinuxNftInterception) (succeeded : Bool) :
    Option LinuxNftInterception :=
  match backend.call with
  | .free => none
  | .starting point => backend.startStep succeeded point
  | .deleting =>
      some ({ backend with
        table := none
        call := .stopping }.callProxy .stopEntered)
  | .stopping =>
      if backend.proxy.call = .free then
        some { backend with
          status := {}
          call := .free }
      else none

def reload (platform : Platform) (backend : LinuxNftInterception) (config : Config) :
    LinuxNftInterception :=
  match checkOptions config with
  | .error _ => backend
  | .ok () =>
      match validate platform config with
      | .error _ => backend
      | .ok _ => { backend with config := config }

end LinuxNftInterception

/-- One step of the backend; `reload` takes no mutex. -/
def performNft (platform : Platform) (strerror : Nat → Bytes)
    (backend : LinuxNftInterception) : NftAction → Option LinuxNftInterception
  | .start =>
      if backend.call = .free then
        some
          (if backend.status.state = .stopped then
            { backend with
              status := { backend.status with state := .starting }
              call := .starting .options }
          else backend)
      else none
  | .stop =>
      if backend.call = .free then
        some
          (if backend.status.state = .stopped then backend
          else
            { backend with
              status := { backend.status with state := .stopping }
              call := .deleting })
      else none
  | .reload config => some (backend.reload platform config)
  | .proceed succeeded => backend.proceed succeeded
  | .proxy outcome =>
      (performProxy strerror backend.proxy (.proceed outcome)).map fun proxy =>
        { backend with proxy := proxy }
  | .loop listener event =>
      (performProxy strerror backend.proxy (.loop listener event)).map fun proxy =>
        { backend with proxy := proxy }

/-! ### The watchdog -/

/-- The check of the backend in `CoreHost::wait_for_shutdown`. -/
def checkBackend (status : InterceptionStatus) : Checked Unit :=
  if status.state = .error then
    throw
      { code := if status.errorCode = "" then "INTERCEPTION_FAILED" else status.errorCode
        message :=
          if status.errorMessage = [] then text "Interception backend failed"
          else status.errorMessage }
  else pure ()

end NativeDNS
