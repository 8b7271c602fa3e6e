/-
`onvif/client.py`: the camera, its discovery and its registry of services.

`CameraConfig` holds the constructor's arguments, `ONVIFCamera` the fields that change, with
what the methods use around them: every `ONVIFService` constructed so far (a `ServiceId` is a
position in that list), the cache of WSDL directories, the file system and the clock.

Methods that await are coroutines over the camera.  Closing a service marks its session
closed at once and then awaits; constructing one appends it to the list of services.

* **`createOnvifService`** — reuse, replace or create the service of a binding key;
* **`devicemgmtWithTime`** — the device service, after the clock handshake if it is due;
* **`updateXaddrs`**, **`getCapabilities`** — discovery.
-/
import OnvifZeep.Coroutine
import OnvifZeep.OrderedDict
import OnvifZeep.Definition
import OnvifZeep.DateTime
import OnvifZeep.UrlUtil
import OnvifZeep.BaseManager

namespace Onvif

open Coro

/-! ### Replies -/

structure OnvifDate where
  year : Option ℤ
  month : Option ℤ
  day : Option ℤ

structure OnvifTime where
  hour : Option ℤ
  minute : Option ℤ
  second : Option ℤ

/-- `UTCDateTime` of a reply. -/
structure UtcDateTime where
  date : Option OnvifDate
  time : Option OnvifTime

/-- The reply to `GetSystemDateAndTime`. -/
structure SystemDateAndTime where
  utcDateTime : Option UtcDateTime

/-- An entry of the reply to `GetServices`: each attribute may be missing, `None` or a
string. -/
structure ServiceEntry where
  namespaceAttr : Option (Option String)
  xaddrAttr : Option (Option String)

/-- A value of the reply to `GetCapabilities`: absent, an object that cannot be indexed with
a string, or a mapping that may lack `XAddr` or have it absent. -/
inductive Capability where
  | none
  | notMapping
  | mapping (xaddr : Option (Option String))

/-- The reply to `GetCapabilities`: the entries in order, a name being `none` when the key is
not a string, and whether `to_dict` succeeds on it. -/
structure CapabilitiesReply where
  entries : List (Option String × Capability)
  serializable : Bool

/-- The reply to a subscribe request. -/
structure SubscribeReply where
  address : Option String
  times : SubscriptionTimes

/-! ### The camera -/

/-- The arguments of `ONVIFCamera`. -/
structure CameraConfig where
  host : String
  port : ℕ
  user : Option String
  passwd : Option String
  wsdlDir : String
  encrypt : Bool
  noCache : Bool
  adjustTime : Bool
  natOverride : Bool
  nfkc : Normalization

/-- The name of a service in lower case and its port type. -/
abbrev BindingKey : Type := String × Option String

structure ONVIFService where
  xaddr : String
  user : Option String
  passwd : Option String
  url : String
  encrypt : Bool
  noCache : Bool
  dtDiff : Option TimeDelta
  bindingName : String
  bindingKey : BindingKey
  readTimeout : Option ℕ
  sessionClosed : Bool

def ONVIFService.closed (v : ONVIFService) : ONVIFService := { v with sessionClosed := true }

structure UsernameDigestTokenDtDiff where
  user : Option String
  passwd : Option String
  dtDiff : Option TimeDelta
  useDigest : Bool

/-- The time now, without a zone, moved by an offset. -/
def createdAt (dtDiff : Option TimeDelta) (now : ℤ) : Except Exc DateTime :=
  match dtDiff with
  | some dtDiff => DateTime.add { wall := now, utcoffset := none } dtDiff
  | none => .ok { wall := now, utcoffset := none }

/-- The `Created` timestamp of a request signed at `now`. -/
def UsernameDigestTokenDtDiff.created (token : UsernameDigestTokenDtDiff) (now : ℤ) :
    Except Exc DateTime := createdAt token.dtDiff now

/-- The token `setup` gives to the client of a service. -/
def ONVIFService.wsse (v : ONVIFService) : UsernameDigestTokenDtDiff where
  user := v.user
  passwd := v.passwd
  dtDiff := v.dtDiff
  useDigest := v.encrypt

structure ONVIFCamera where
  dtDiff : Option TimeDelta
  xaddrs : Dict String (Option String)
  hasBrokenRelativeTimestamps : Bool
  capabilities : Option (List (Option String × Capability))
  services : Dict BindingKey ServiceId
  constructed : List ONVIFService
  wsdlDirFiles : Dict String (Option (List String))
  pathIsfile : String → Bool
  -- the wall clock in UTC
  now : ℤ
  -- what opening a client session raises, if it does
  sessionRaises : Option Exc

/-- The calls of a camera and its services. -/
inductive CameraCall where
  | listWsdlDir (wsdlDir : String)
  | close (sid : ServiceId)
  | setup (sid : ServiceId)
  | getSystemDateAndTime (sid : ServiceId) (authless : Bool)
  | getServices (sid : ServiceId)
  | getCapabilities (sid : ServiceId)
  | createPullPointSubscription (sid : ServiceId) (initialTerminationTime : String)
  | subscribe (sid : ServiceId) (initialTerminationTime consumerAddress : String)
  | renew (sid : ServiceId) (terminationTime : String)
deriving DecidableEq

abbrev cameraInterface : Interface where
  Call := CameraCall
  Answer
    | .listWsdlDir _ => Option (List String)
    | .close _ => Unit
    | .setup _ => Unit
    | .getSystemDateAndTime _ _ => SystemDateAndTime
    | .getServices _ => Option (List ServiceEntry)
    | .getCapabilities _ => CapabilitiesReply
    | .createPullPointSubscription _ _ => SubscribeReply
    | .subscribe _ _ _ => SubscribeReply
    | .renew _ _ => SubscriptionTimes

instance : DecidableEq cameraInterface.Call := inferInstanceAs (DecidableEq CameraCall)

/-- A coroutine of a camera. -/
abbrev CameraCoro (α : Type) : Type := Coro cameraInterface Exc ONVIFCamera α

/-- Everything outside a coroutine of a camera. -/
abbrev CameraWorld : Type := World cameraInterface Exc ONVIFCamera

/-- A call of such a coroutine and its answer. -/
abbrev CameraEvent : Type := Event cameraInterface Exc ONVIFCamera

/-- The device and the libraries, when nothing else uses the camera. -/
def deviceAlone (answers : (c : CameraCall) → Except Exc (cameraInterface.Answer c)) :
    CameraWorld := World.alone answers

/-- `await` of a camera's call. -/
abbrev await (c : CameraCall) : CameraCoro (cameraInterface.Answer c) :=
  call (I := cameraInterface) c

/-! ### Addresses -/

/-- `str.lower` on the letters that occur in the names of services. -/
def lower (s : String) : String := String.ofList (s.toList.map Char.toLower)

def rewriteUrl (C : CameraConfig) (url : Option String) : Except Exc (Option String) :=
  if C.natOverride then replaceHostPort C.nfkc url C.host C.port else .ok url

/-- `rewrite_url(normalize_url(url))`. -/
def discoveredUrl (C : CameraConfig) (url : Option String) : Except Exc (Option String) :=
  normalizeUrl C.nfkc url >>= rewriteUrl C

theorem only_valueError_discoveredUrl (C : CameraConfig) (address : Option String) :
    Only IsValueError (discoveredUrl C address) := by
  refine .bind ?_ fun url => .ite ?_ (only_ok _)
  · cases address with
    | none => exact only_ok _
    | some url =>
      exact Only.map _ (.bind (only_valueError_urlparse _ _)
        fun _ => .ite (only_ok _) (only_ok _))
  · cases url with
    | none => exact only_ok _
    | some url =>
      exact .ite (only_ok _) (Only.map _
        (.bind (only_valueError_urlparse _ _) fun _ => only_ok _))

/-! ### Paths -/

/-- `str(Path(dir) / file)`: empty and `.` components disappear. -/
def joinPath (dir file : String) : String :=
  let chars := dir.toList
  let slashes := (chars.takeWhile (· = '/')).length
  let root := if slashes = 2 then "//" else if slashes = 0 then "" else "/"
  let parts := (chars.splitOn '/').filter fun p => p ≠ [] && p ≠ ['.']
  root ++ "/".intercalate (parts.map String.ofList ++ [file])

/-- `os.path.split`. -/
def splitPath (path : String) : String × String :=
  let chars := path.toList
  let tail := (chars.reverse.takeWhile (· ≠ '/')).reverse
  let head := chars.take (chars.length - tail.length)
  let stripped := (head.reverse.dropWhile (· = '/')).reverse
  (String.ofList (if stripped.isEmpty then head else stripped), String.ofList tail)

/-! ### Constructing a service -/

/-- `safe_func`: an exception that is no `ONVIFError` becomes one. -/
def safeFunc {α : Type} : Except Exc α → Except Exc α
  | .error (.onvif cls err) => .error (.onvif cls err)
  | .error .cancelledError => .error .cancelledError
  | .error e => .error (.onvif .onvifError e.str)
  | .ok a => .ok a

def onvifError {α : Type} (message : String) : Except Exc α := .error (.onvif .onvifError message)

namespace ONVIFCamera

/-- The WSDL file is in the cached listing of its directory, or on disk without one. -/
def wsdlExists (s : ONVIFCamera) (wsdlDir file path : String) : Bool :=
  match s.wsdlDirFiles.get? wsdlDir with
  | some (some files) => file ∈ files
  | _ => s.pathIsfile path

/-- `ONVIFService.__init__`. -/
def newService (C : CameraConfig) (s : ONVIFCamera) (xaddr url bindingName : String)
    (bindingKey : BindingKey) (readTimeout : Option ℕ) : Except Exc ONVIFService :=
  safeFunc <|
    if !s.wsdlExists (splitPath url).1 (splitPath url).2 url then
      onvifError (url ++ " doesn`t exist!")
    else
      match s.sessionRaises with
      | some e => .error e
      | none => .ok
        { xaddr := xaddr
          user := C.user
          passwd := C.passwd
          url := url
          encrypt := C.encrypt
          noCache := C.noCache
          dtDiff := s.dtDiff
          bindingName := bindingName
          bindingKey := bindingKey
          readTimeout := readTimeout
          sessionClosed := false }

def service? (s : ONVIFCamera) (sid : ServiceId) : Option ONVIFService := s.constructed[sid]?

/-- `session.closed` of a service. -/
def isClosed (s : ONVIFCamera) (sid : ServiceId) : Bool := (s.service? sid).any (·.sessionClosed)

def addService (service : ONVIFService) (s : ONVIFCamera) : ONVIFCamera :=
  { s with constructed := s.constructed ++ [service] }

def markClosed (sid : ServiceId) (s : ONVIFCamera) : ONVIFCamera :=
  { s with constructed := s.constructed.modify sid ONVIFService.closed }

def register (key : BindingKey) (sid : ServiceId) (s : ONVIFCamera) : ONVIFCamera :=
  { s with services := s.services.insert key sid }

def unregister (key : BindingKey) (s : ONVIFCamera) : ONVIFCamera :=
  { s with services := s.services.erase key }

def cacheWsdlDir (wsdlDir : String) (files : Option (List String)) (s : ONVIFCamera) : ONVIFCamera :=
  { s with wsdlDirFiles := s.wsdlDirFiles.insert wsdlDir files }

def setDtDiff (dtDiff : Option TimeDelta) (s : ONVIFCamera) : ONVIFCamera :=
  { s with dtDiff := dtDiff }

def setXaddrs (xaddrs : Dict String (Option String)) (s : ONVIFCamera) : ONVIFCamera :=
  { s with xaddrs := xaddrs }

def setCapabilities (capabilities : List (Option String × Capability)) (s : ONVIFCamera) :
    ONVIFCamera :=
  { s with capabilities := some capabilities }

def setXaddr (ns : String) (xaddr : Option String) (s : ONVIFCamera) : ONVIFCamera :=
  { s with xaddrs := s.xaddrs.insert ns xaddr }

/-! ### `get_definition` -/

def devicemgmtXaddr (C : CameraConfig) : String :=
  let base :=
    if "http://".toList.isPrefixOf C.host.toList || "https://".toList.isPrefixOf C.host.toList then
      C.host
    else "http://" ++ String.ofList (bracketHost C.host.toList)
  base ++ ":" ++ toString C.port ++ "/onvif/device_service"

/-- The namespace an address is looked up under. -/
def definitionNamespace (d : ServiceDefinition) (portType : Option String) : String :=
  match portType with
  | some p => if p = "" then d.ns else d.ns ++ "/" ++ p
  | none => d.ns

/-- The address, the WSDL file and the binding of a service. -/
def getDefinition (C : CameraConfig) (s : ONVIFCamera) (name : String)
    (portType : Option String) : Except Exc (String × String × String) :=
  match lookupService name with
  | none => onvifError ("Unknown service " ++ name)
  | some d =>
    let bindingName := "\x7b" ++ d.ns ++ "\x7d" ++ d.binding
    let wsdlpath := joinPath C.wsdlDir d.wsdl
    if !s.wsdlExists C.wsdlDir d.wsdl wsdlpath then onvifError ("No such file: " ++ wsdlpath)
    else if name = "devicemgmt" then .ok (devicemgmtXaddr C, wsdlpath, bindingName)
    else
      let ns := definitionNamespace d portType
      match s.xaddrs.get? ns with
      | some (some xaddr) =>
        if xaddr = "" then
          onvifError ("Device doesn`t support service: " ++ name ++ " with namespace " ++ ns)
        else .ok (xaddr, wsdlpath, bindingName)
      | _ => onvifError ("Device doesn`t support service: " ++ name ++ " with namespace " ++ ns)

/-! ### Creating a service -/

/-- `str` of a binding key, as a `KeyError` shows it. -/
def bindingKeyStr (key : BindingKey) : String :=
  match key.2 with
  | some portType => "('" ++ key.1 ++ "', '" ++ portType ++ "')"
  | none => "('" ++ key.1 ++ "', None)"

/-- Cache the listing of the WSDL directory, once. -/
def listWsdlDir (C : CameraConfig) : CameraCoro Unit := do
  let s ← getState
  match s.wsdlDirFiles.get? C.wsdlDir with
  | some _ => pure ()
  | none =>
    let files ← await (.listWsdlDir C.wsdlDir)
    modifyState (cacheWsdlDir C.wsdlDir files)

/-- `service.close()`. -/
def closeService (sid : ServiceId) : CameraCoro Unit := do
  modifyState (markClosed sid)
  await (.close sid)

/-- `self.services.pop(key)` and `del self.services[key]`. -/
def popService (key : BindingKey) : CameraCoro Unit := do
  let s ← getState
  match s.services.get? key with
  | some _ => modifyState (unregister key)
  | none => .raise (.builtin .keyError (bindingKeyStr key))

/-- Construct, set up and register a service. -/
def buildService (C : CameraConfig) (key : BindingKey) (definition : String × String × String)
    (readTimeout : Option ℕ) : CameraCoro ServiceId := do
  let s ← getState
  let service ← ofExcept
    (s.newService C definition.1 definition.2.1 definition.2.2 key readTimeout)
  modifyState (addService service)
  await (.setup s.constructed.length)
  modifyState (register key s.constructed.length)
  return s.constructed.length

/-- The registered service of a key. -/
def existingService (s : ONVIFCamera) (key : BindingKey) : Option (ServiceId × ONVIFService) := do
  let sid ← s.services.get? key
  let service ← s.service? sid
  return (sid, service)

def createOnvifService (C : CameraConfig) (name : String) (portType : Option String)
    (readTimeout : Option ℕ) : CameraCoro ServiceId := do
  listWsdlDir C
  let s ← getState
  let definition ← ofExcept (s.getDefinition C (lower name) portType)
  match s.existingService (lower name, portType) with
  | some (sid, service) =>
    if service.xaddr = definition.1 then return sid
    else
      closeService sid
      popService (lower name, portType)
      buildService C (lower name, portType) definition readTimeout
  | none => buildService C (lower name, portType) definition readTimeout

def createDevicemgmtService (C : CameraConfig) : CameraCoro ServiceId :=
  createOnvifService C "devicemgmt" none none

/-! ### The clock handshake -/

/-- Reading the attribute `name` of a value that may be `None`. -/
def attributeOf {α : Type} (name : String) (a : Option α) : Except Exc α :=
  match a with
  | some a => .ok a
  | none => .error (.builtin .attributeError ("'NoneType' object has no attribute '" ++ name ++ "'"))

def orNoInteger (a : Option ℤ) : Except Exc ℤ :=
  match a with
  | some a => .ok a
  | none => .error
    (.builtin .typeError "'NoneType' object cannot be interpreted as an integer")

/-- The device time of a reply. -/
def camDate (r : SystemDateAndTime) : Except Exc DateTime := do
  let cdate ← attributeOf "Date" r.utcDateTime
  let date ← attributeOf "Year" cdate.date
  let time ← attributeOf "Hour" cdate.time
  let year ← orNoInteger date.year
  let month ← orNoInteger date.month
  let day ← orNoInteger date.day
  let hour ← orNoInteger time.hour
  let minute ← orNoInteger time.minute
  let second ← orNoInteger time.second
  DateTime.ofFields year month day hour minute second

def utcnow (s : ONVIFCamera) : DateTime := { wall := s.now, utcoffset := some 0 }

/-- `GetSystemDateAndTime`, with authentication if the device insists on it. -/
def getSystemDateAndTime (devicemgmt : ServiceId) : CameraCoro SystemDateAndTime :=
  tryExcept (await (.getSystemDateAndTime devicemgmt true)) fun err =>
    if err.oneOf [.fault] then await (.getSystemDateAndTime devicemgmt false) else .raise err

def adjustTime (C : CameraConfig) (devicemgmt : ServiceId) : CameraCoro ServiceId :=
  if !C.adjustTime then return devicemgmt
  else do
    let sysDate ← getSystemDateAndTime devicemgmt
    let date ← ofExcept (camDate sysDate)
    let s ← getState
    let dtDiff ← ofExcept (date.sub s.utcnow)
    modifyState (setDtDiff (some dtDiff))
    closeService devicemgmt
    let s ← getState
    match s.service? devicemgmt with
    | some service => popService service.bindingKey
    | none => .raise (.builtin .attributeError "binding_key")
    createDevicemgmtService C

def devicemgmtWithTime (C : CameraConfig) : CameraCoro ServiceId := do
  let devicemgmt ← createDevicemgmtService C
  let s ← getState
  match s.dtDiff with
  | some _ => return devicemgmt
  | none => adjustTime C devicemgmt

/-! ### Discovery -/

/-- The loop over the entries of GetServices; `found` says whether one was stored. -/
def addServices (C : CameraConfig) : List ServiceEntry → Bool → CameraCoro Bool
  | [], found => pure found
  | entry :: rest, found =>
    match entry.namespaceAttr, entry.xaddrAttr with
    | some (some ns), some (some xaddr) =>
      if ns ≠ "" ∧ xaddr ≠ "" then do
        let url ← ofExcept (discoveredUrl C (some xaddr))
        modifyState (setXaddr ns url)
        addServices C rest true
      else addServices C rest found
    -- a missing attribute, or one that is `None`
    | _, _ => addServices C rest found

def updateXaddrsFromServices (C : CameraConfig) (devicemgmt : ServiceId) : CameraCoro Bool := do
  let services ← attempt (await (.getServices devicemgmt))
  match services with
  | .error err => if err.oneOf [.onvifError, .fault] then return false else .raise err
  | .ok services => addServices C (services.getD []) false

/-- The exceptions a malformed capability can cause. -/
def capabilityErrors : List ExcClass := [.keyError, .typeError, .attributeError]

/-- The body of the `try` for one capability. -/
def addCapability (C : CameraConfig) (name : Option String) (capability : Capability) :
    CameraCoro Unit :=
  match name with
  | none => .raise (.builtin .attributeError "object has no attribute 'lower'")
  | some name =>
    match lookupService (lower name), capability with
    | none, _ => pure ()
    | some _, .none => pure ()
    | some _, .notMapping => .raise (.builtin .typeError "object is not subscriptable")
    | some _, .mapping none => .raise (.builtin .keyError "'XAddr'")
    | some d, .mapping (some xaddr) => do
      let url ← ofExcept (discoveredUrl C xaddr)
      modifyState (setXaddr d.ns url)

def addCapabilities (C : CameraConfig) : List (Option String × Capability) → CameraCoro Unit :=
  forEach fun entry =>
    tryExcept (addCapability C entry.1 entry.2) fun err =>
      if err.oneOf capabilityErrors then pure () else .raise err

def updateXaddrsFromCapabilities (C : CameraConfig) (devicemgmt : ServiceId) :
    CameraCoro Unit := do
  let capabilities ← await (.getCapabilities devicemgmt)
  addCapabilities C capabilities.entries
  if capabilities.serializable then
    modifyState (setCapabilities capabilities.entries)

def updateXaddrs (C : CameraConfig) : CameraCoro Unit := do
  modifyState (setDtDiff none)
  let devicemgmt ← devicemgmtWithTime C
  modifyState (setXaddrs Dict.empty)
  let found ← updateXaddrsFromServices C devicemgmt
  if !found then updateXaddrsFromCapabilities C devicemgmt

def getCapabilities (C : CameraConfig) :
    CameraCoro (Option (List (Option String × Capability))) := do
  let s ← getState
  match s.capabilities with
  | some capabilities => return some capabilities
  | none =>
    let devicemgmt ← devicemgmtWithTime C
    updateXaddrsFromCapabilities C devicemgmt
    let s ← getState
    return s.capabilities

/-! ### The consumer's calls -/

/-- A camera that was just constructed. -/
def newCamera (now : ℤ) (wsdlDirFiles : Dict String (Option (List String)))
    (pathIsfile : String → Bool) (sessionRaises : Option Exc) : ONVIFCamera where
  dtDiff := none
  xaddrs := Dict.empty
  hasBrokenRelativeTimestamps := false
  capabilities := none
  services := Dict.empty
  constructed := []
  wsdlDirFiles := wsdlDirFiles
  pathIsfile := pathIsfile
  now := now
  sessionRaises := sessionRaises

/-- The clock and the file system change. -/
def surround (now : ℤ) (wsdlDirFiles : Dict String (Option (List String)))
    (pathIsfile : String → Bool) (sessionRaises : Option Exc) (s : ONVIFCamera) : ONVIFCamera :=
  { s with now, wsdlDirFiles, pathIsfile, sessionRaises }

inductive CameraOp where
  | updateXaddrs
  | getCapabilities
  | createOnvifService (name : String) (portType : Option String) (readTimeout : Option ℕ)

/-- The call, returning the service if it creates one. -/
def perform (C : CameraConfig) : CameraOp → CameraCoro (Option ServiceId)
  | .updateXaddrs => updateXaddrs C >>= fun _ => pure none
  | .getCapabilities => getCapabilities C >>= fun _ => pure none
  | .createOnvifService name portType readTimeout =>
    createOnvifService C name portType readTimeout >>= fun sid => pure (some sid)

/-! ### Termination times -/

/-- The window a subscribe request granted is less than half of the one asked for. -/
def brokenRelativeTime (expectedInterval : TimeDelta) (currentTime terminationTime : Option DateTime) :
    Bool :=
  match currentTime, terminationTime with
  | some currentTime, some terminationTime =>
    match currentTime.utcoffset, terminationTime.utcoffset with
    | some _, some _ =>
      match terminationTime.sub currentTime with
      | .ok actualInterval =>
        |TimeDelta.totalSecondsDouble actualInterval|
          < TimeDelta.totalSecondsDouble expectedInterval / 2
      | .error _ => false
    | _, _ => false
  | _, _ => false

def hasBrokenRelativeTime (expectedInterval : TimeDelta)
    (currentTime terminationTime : Option DateTime) : CameraCoro Bool :=
  if brokenRelativeTime expectedInterval currentTime terminationTime then do
    modifyState fun s => { s with hasBrokenRelativeTimestamps := true }
    return true
  else return false

def getNextTerminationTime (s : ONVIFCamera) (duration : TimeDelta) : Except Exc String :=
  if !s.hasBrokenRelativeTimestamps then
    .ok ("PT" ++ toString (Binary64.truncate (TimeDelta.totalSecondsDouble duration)) ++ "S")
  else do
    let absoluteTime ← s.utcnow.add duration
    let absoluteTime ←
      match s.dtDiff with
      | some dtDiff => if dtDiff = 0 then .ok absoluteTime else absoluteTime.add dtDiff
      | none => .ok absoluteTime
    return replaceStr absoluteTime.isoformatSeconds "+00:00" "Z"

theorem only_builtin_getNextTerminationTime (s : ONVIFCamera) (duration : TimeDelta) :
    Only (fun e => e.isBuiltin) (s.getNextTerminationTime duration) := by
  refine .ite (only_ok _) (.bind (DateTime.only_builtin_add _ _) fun absoluteTime => ?_)
  cases s.dtDiff with
  | none => exact only_ok _
  | some dtDiff =>
    exact .ite (only_ok _) (.bind (DateTime.only_builtin_add _ _) fun _ => only_ok _)

/-! ### A camera on the local network -/

/-- A camera whose clock is not adjusted. -/
def localConfig : CameraConfig where
  host := "192.168.0.2"
  port := 80
  user := some "admin"
  passwd := some "secret"
  wsdlDir := "wsdl"
  encrypt := true
  noCache := false
  adjustTime := false
  natOverride := false
  nfkc := id

/-- The device service of that camera. -/
def localDevicemgmt : ONVIFService where
  xaddr := "http://192.168.0.2:80/onvif/device_service"
  user := some "admin"
  passwd := some "secret"
  url := "wsdl/devicemgmt.wsdl"
  encrypt := true
  noCache := false
  dtDiff := none
  bindingName := "{http://www.onvif.org/ver10/device/wsdl}DeviceBinding"
  bindingKey := ("devicemgmt", none)
  readTimeout := none
  sessionClosed := false

/-- Its media service. -/
def localMedia : ONVIFService :=
  { localDevicemgmt with
    xaddr := "http://192.168.0.2/onvif/media"
    url := "wsdl/media.wsdl"
    bindingName := "{http://www.onvif.org/ver10/media/wsdl}MediaBinding"
    bindingKey := ("media", none) }

/-- The camera after its device service was created. -/
def localCamera : ONVIFCamera where
  dtDiff := none
  xaddrs := Dict.empty
  hasBrokenRelativeTimestamps := false
  capabilities := none
  services := Dict.empty.insert ("devicemgmt", none) 0
  constructed := [localDevicemgmt]
  wsdlDirFiles := Dict.empty.insert "wsdl" (some ["devicemgmt.wsdl", "media.wsdl", "events.wsdl"])
  pathIsfile _ := false
  now := 63000000000000000
  sessionRaises := none

end ONVIFCamera

end Onvif
