import SensorGateway.Proofs.Bus.Progress
import SensorGateway.Proofs.Forwarder.Operations
import SensorGateway.Proofs.Forwarder.Queueing
import SensorGateway.Proofs.Record.Opening
import SensorGateway.Proofs.Text.Decimal

/-!
# `SensorGateway.Proofs.Recorders`: how often a message is recorded

At startup the gateway makes one recorder for every entry of the list of
recorded types that has a schema, and puts them on the bus. The table of
listeners takes no listener twice, but two recorders of one type are two
listeners: what an operator lists twice is recorded twice.

* `records_deliver`: what a dispatch records is what the recorders among its
  listeners record, each once and in order.
* `Server.Beside`: connections come and go beside the recorders, whose part of
  the table stays what it was at startup.
* `records_receive`: at any time a message is recorded as often as the
  settings list its type.
-/

set_option autoImplicit false

namespace SensorGateway

/-! ### What a dispatch records -/

/-- What a listener hands to the record sink, if it is a recorder. -/
def Subscriber.entry? (recorders : List Recorder) (delivery : Bus.Delivery) :
    Subscriber → Option (String × Record)
  | .recorder index => some (((recorders[index]?).map Recorder.name).getD "", delivery.record)
  | .client _ => none

namespace Effects

/-- Every recorder is called once and hands over one record, whether it can be
kept or not. -/
theorem records_deliver (recorders : List Recorder) (delivery : Bus.Delivery)
    (listeners : List Subscriber) (world : Bus.World Subscriber Effects) :
    (Bus.deliver (environment recorders) delivery listeners world).2.rest.records =
      world.rest.records ++ listeners.filterMap (Subscriber.entry? recorders delivery) := by
  induction listeners generalizing world with
  | nil => exact (List.append_nil _).symm
  | cons listener rest ih =>
    cases listener with
    | recorder index =>
      show (Bus.deliver (environment recorders) delivery rest _).2.rest.records = _
      rw [ih]
      show (world.rest.records ++ [_]) ++ _ = world.rest.records ++ (_ :: _)
      rw [← List.append_cons]
    | client id =>
      show (Bus.deliver (environment recorders) delivery rest _).2.rest.records = _
      rw [ih]
      rfl

/-- The acknowledgement records nothing. -/
theorem records_distribute (recorders : List Recorder) (bus : Bus) (delivery : Bus.Delivery)
    (priority : Priority) (world : Bus.World Subscriber Effects) :
    (bus.distribute (environment recorders) delivery priority world).2.rest.records =
      world.rest.records ++
        (world.listeners.list delivery.type).filterMap (Subscriber.entry? recorders delivery) := by
  rw [← records_deliver]
  unfold Bus.distribute
  split
  · next hnone =>
    rw [hnone]
    rfl
  · simp only
    split <;> rfl

end Effects

/-! ### Recorders on the bus -/

namespace Gateway

/-- On a table without recorders that are numbered as high, the recorders of a
type stand in the order of their numbers, as many as there are. -/
theorem list_registerRecorders (type : MessageType) (recorders : List Recorder) (index : Nat)
    (table : Bus.Listeners Subscriber)
    (hnew : ∀ type i, Subscriber.recorder i ∈ table.list type → i < index) :
    (registerRecorders index recorders table).list type = table.list type ++
      ((recorders.zipIdx index).filter fun entry => entry.1.type = type).map
        fun entry => .recorder entry.2 := by
  induction recorders generalizing index table with
  | nil => exact (List.append_nil _).symm
  | cons recorder rest ih =>
    have habsent : Subscriber.recorder index ∉ table.list recorder.type := by
      intro hmem
      exact absurd (hnew _ _ hmem) (Nat.lt_irrefl index)
    have hnew' : ∀ other i, Subscriber.recorder i ∈
        (table.register recorder.type (.recorder index)).2.list other → i < index + 1 := by
      intro other i hmem
      rcases (table.mem_register _ _ _ _).mp hmem with ⟨-, heq⟩ | hmem
      · cases heq
        exact Nat.lt_succ_self index
      · exact Nat.lt_succ_of_lt (hnew other i hmem)
    show (registerRecorders (index + 1) rest _).list type = _
    rw [ih (index + 1) _ hnew', Bus.Listeners.list_register, List.zipIdx_cons, List.filter_cons]
    by_cases htype : type = recorder.type
    · subst htype
      simp [habsent]
    · have hne : recorder.type ≠ type := fun h => htype h.symm
      simp [htype, hne]

end Gateway

/-! ### Connections beside recorders -/

namespace Forwarder.Server

variable {ι : Type} [DecidableEq ι]

/-- All live connections have listeners of one kind. Those of the other kind
make up a table of their own on a bus. -/
structure Beside (server : Server ι) (client : ι → Bool) (bus : Nat) (table : Bus.Listeners ι) :
    Prop where
  sessions : ∀ session ∈ server.sessions, client session.listener = true
  others : (server.tables bus).only (fun _ listener => !client listener) = table

variable {server : Server ι} {client : ι → Bool} {bus : Nat} {table : Bus.Listeners ι}

/-- A connection that is attached leaves the others alone. -/
theorem Beside.attach (h : server.Beside client bus table) (id : Nat) (connection : Connection)
    {listener : ι} (hlistener : client listener = true) :
    (server.attach id connection listener).2.Beside client bus table := by
  unfold Server.attach
  split
  · exact h
  · rw [foldl_subscribe]
    constructor
    · intro session hmem
      rcases List.mem_append.mp hmem with hmem | hmem
      · exact h.sessions session (List.mem_of_mem_filter hmem)
      · rw [List.mem_singleton.mp hmem]
        exact hlistener
    · show Bus.Listeners.only _ (if bus ∈ server.sources then _ else _) = table
      split
      · rw [Bus.Listeners.only_register_of_not _ (by simp [hlistener]), h.others]
      · exact h.others

/-- A connection that is detached takes its own listener along. -/
theorem Beside.detach (h : server.Beside client bus table) (id : Nat) :
    (server.detach id).2.Beside client bus table := by
  unfold Server.detach
  split
  · exact h
  · next session hfound =>
    have hsession := h.sessions session (List.mem_of_find?_eq_some hfound)
    rw [foldl_unsubscribe]
    constructor
    · intro other hmem
      exact h.sessions other (List.mem_of_mem_filter hmem)
    · show Bus.Listeners.only _ (if bus ∈ server.sources then _ else _) = table
      split
      · rw [Bus.Listeners.only_deregister_of_not _ (by simp [hsession]), h.others]
      · exact h.others

theorem Beside.shutdownAll (h : server.Beside client bus table) :
    server.shutdownAll.Beside client bus table := by
  have hmarked : server.markClosing.Beside client bus table := ⟨h.sessions, h.others⟩
  have hall : ∀ (ids : List Nat) {server : Server ι}, server.Beside client bus table →
      (ids.foldl (fun server id => (server.detach id).2) server).Beside client bus table := by
    intro ids
    induction ids with
    | nil => exact fun h => h
    | cons id rest ih => exact fun h => ih (h.detach id)
  exact hall _ hmarked

/-- Whatever a connection notices, only its own listener comes and goes. -/
theorem Beside.handle (h : server.Beside client bus table) (handler : Handler) {listener : ι}
    (hlistener : client listener = true) (event : ClientEvent) :
    (handler.handle listener server event).2.Beside client bus table := by
  unfold Handler.handle
  split
  · exact h
  · exact h
  · have hattach := h.attach handler.id handler.connection hlistener
    split
    · next heq =>
      rw [heq] at hattach
      exact hattach
    · next heq =>
      rw [heq] at hattach
      exact hattach
  · exact h.detach handler.id
  · exact h

end Forwarder.Server

/-! ### The gateway at work -/

namespace Gateway

/-- What happens to a gateway. Packets of clients do not change it. -/
inductive Event where
  /-- A connection is numbered. -/
  | accept
  /-- A connection notices something. -/
  | handle (handler : Forwarder.Handler) (event : Forwarder.ClientEvent)
  /-- A connection asks for its next packet. -/
  | next (id : Nat)
  /-- A packet of the base station arrives. -/
  | receive (keeps : Bool) (timestamp : Int) (packet : Bytes)
  | shutdownAll

/-- The gateway after an event. -/
def after (gateway : Gateway) : Event → Gateway
  | .accept => gateway.accept.2
  | .handle handler event => (gateway.handle handler event).2
  | .next id => (gateway.nextFor id).2
  | .receive keeps timestamp packet => (gateway.receive keeps timestamp packet).2
  | .shutdownAll => gateway.shutdownAll

/-- The gateway after events, one after the other. -/
def run (gateway : Gateway) (events : List Event) : Gateway := events.foldl after gateway

/-- The table of the recorders alone. -/
def recorderTable (startup : Startup) : Bus.Listeners Subscriber :=
  registerRecorders 0 startup.recorders Bus.Listeners.empty

/-- The gateway works with what startup gave it, and its connections have left
the recorders alone. -/
structure Equipped (gateway : Gateway) (startup : Startup) : Prop where
  startup_eq : gateway.startup = startup
  beside : gateway.server.Beside Subscriber.isClient theBus (recorderTable startup)

/-- A fresh gateway has no listeners but the recorders. -/
theorem equipped_ofStartup (startup : Startup) : (ofStartup startup).Equipped startup := by
  refine ⟨rfl, ?_, ?_⟩
  · intro session hmem
    cases hmem
  · show (recorderTable startup).only _ = recorderTable startup
    apply Bus.Listeners.eq_of_list_eq
    intro type
    rw [Bus.Listeners.list_only, List.filter_eq_self]
    intro listener hmem
    rw [recorderTable, list_registerRecorders _ _ _ _ (by simp [Bus.Listeners.empty])] at hmem
    simp only [Bus.Listeners.empty, List.nil_append, List.mem_map] at hmem
    obtain ⟨entry, -, rfl⟩ := hmem
    rfl

/-- No event touches the recorders. -/
theorem Equipped.after {gateway : Gateway} {startup : Startup} (h : gateway.Equipped startup)
    (event : Event) : (gateway.after event).Equipped startup := by
  cases event with
  | accept => exact ⟨h.startup_eq, h.beside.sessions, h.beside.others⟩
  | handle handler event => exact ⟨h.startup_eq, h.beside.handle handler rfl event⟩
  | next id =>
    simp only [Gateway.after, nextFor]
    split
    · split
      · exact ⟨h.startup_eq, h.beside⟩
      · exact h
    · exact h
  | receive keeps timestamp packet => exact ⟨h.startup_eq, h.beside⟩
  | shutdownAll => exact ⟨h.startup_eq, h.beside.shutdownAll⟩

theorem Equipped.run {gateway : Gateway} {startup : Startup} (h : gateway.Equipped startup)
    (events : List Event) : (gateway.run events).Equipped startup := by
  induction events generalizing gateway with
  | nil => exact h
  | cons event rest ih => exact ih (h.after event)

/-- The recorders of a type hand over one record each, under their own
names. -/
theorem filterMap_recorderTable (startup : Startup) (type : MessageType)
    (delivery : Bus.Delivery) :
    ((recorderTable startup).list type).filterMap
        (Subscriber.entry? startup.recorders delivery) =
      (startup.recorders.filter fun recorder => recorder.type = type).map
        fun recorder => (recorder.name, delivery.record) := by
  rw [recorderTable, list_registerRecorders _ _ _ _ (by simp [Bus.Listeners.empty])]
  show (List.map _ _).filterMap _ = _
  rw [List.filterMap_map]
  -- The number of a recorder is its place in the list.
  have hentry : ∀ entry ∈ (startup.recorders.zipIdx 0).filter (fun entry => entry.1.type = type),
      (Subscriber.entry? startup.recorders delivery ∘ fun entry => .recorder entry.2) entry =
        some (entry.1.name, delivery.record) := by
    intro entry hmem
    have hplace : startup.recorders[entry.2]? = some entry.1 :=
      List.mem_zipIdx_iff_getElem?.mp (List.mem_of_mem_filter hmem)
    simp [Subscriber.entry?, hplace]
  rw [List.filterMap_congr hentry, List.filterMap_eq_map']
  have hfst : startup.recorders = (startup.recorders.zipIdx 0).map Prod.fst :=
    (List.zipIdx_map_fst 0 startup.recorders).symm
  conv_rhs => rw [hfst, List.filter_map, List.map_map]
  rfl

/-- What a gateway records of a message is what the recorders of its type
record. The listeners of connections among them record nothing. -/
theorem Equipped.recorded {gateway : Gateway} {startup : Startup}
    (h : gateway.Equipped startup) (keeps : Bool) (timestamp : Int) (packet : Bytes) :
    (gateway.receive keeps timestamp packet).1.records =
      match gateway.bus.content (startup.link.deviceId.map Int32.toInt) timestamp packet with
      | .error _ => []
      | .ok delivery => (startup.recorders.filter fun recorder => recorder.type = delivery.type).map
          fun recorder => (recorder.name, delivery.record) := by
  simp only [receive, environment, Bus.dispatchPacket_eq, h.startup_eq]
  cases gateway.bus.content (startup.link.deviceId.map Int32.toInt) timestamp packet with
  | error error => rfl
  | ok delivery =>
    have hothers : ((gateway.server.tables theBus).list delivery.type).filter
        (fun listener => !listener.isClient) = (recorderTable startup).list delivery.type :=
      congrArg (fun table => table.list delivery.type) h.beside.others
    simp only [Effects.records_distribute, List.nil_append]
    rw [← filterMap_recorderTable, ← hothers, List.filterMap_filter]
    refine List.filterMap_congr ?_
    intro listener _
    cases listener <;> rfl

end Gateway

/-! ### Recorders of the settings -/

namespace Startup

/-- An entry of the settings makes a recorder for every time it is there. -/
theorem filter_recordersOf {registry : Registry} {type : MessageType}
    (h : registry.contains type = true) (name : String) (types : List MessageType) :
    (recordersOf registry name types).filter (fun recorder => recorder.type = type) =
      List.replicate (types.count type) ⟨s!"{name}/0x{Text.hexByte type}", type⟩ := by
  induction types with
  | nil => rfl
  | cons first rest ih =>
    rw [recordersOf] at ih ⊢
    by_cases hfirst : first = type
    · subst hfirst
      rw [List.filter_cons_of_pos h, List.map_cons, List.filter_cons_of_pos (by simp), ih,
        List.count_cons_self, List.replicate_succ]
    · -- Whether it has a schema or not, another type makes no recorder of this one.
      rw [List.count_cons_of_ne hfirst, ← ih]
      by_cases hschema : registry.contains first = true
      · rw [List.filter_cons_of_pos hschema, List.map_cons,
          List.filter_cons_of_neg (by simpa using hfirst)]
      · rw [List.filter_cons_of_neg hschema]

/-- A gateway starts with the recorders of its settings. -/
theorem recorders_of_run_eq_ok {files : FileView} {options : CommandLine.Options}
    {startup : Startup} (h : run files options = .ok startup) :
    startup.recorders =
      recordersOf startup.registry startup.link.name startup.settings.device.recordTypes := by
  unfold run at h
  obtain ⟨read, -, h⟩ := (Except.bind_eq_ok_iff _ _ _).mp h
  obtain ⟨registry, -, h⟩ := (Except.bind_eq_ok_iff _ _ _).mp h
  obtain ⟨link, -, h⟩ := (Except.bind_eq_ok_iff _ _ _).mp h
  obtain ⟨server, -, h⟩ := (Except.bind_eq_ok_iff _ _ _).mp h
  -- Whatever becomes of the record file, the recorders are the same.
  split at h
  · simp only at h
    split at h
    · cases h
      rfl
    · cases h
  · cases h
    rfl

/-- What a gateway starts with when all steps of startup go through and records
are printed. -/
theorem run_eq_ok {files : FileView} {options : CommandLine.Options} {read : Settings}
    {registry : Registry} {link : LinkSettings} {server : ServerSettings}
    (hread : Settings.ofFile (files.read options.config) = .ok read)
    (hregistry : Registry.ofFile (files.read (options.apply read).schemas) = .ok registry)
    (hlink : (options.apply read).link = .ok link)
    (hserver : (options.apply read).server = .ok server)
    (hfile : read.device.recordFile = none) :
    run files options = .ok {
      settings := options.apply read, registry, link, server
      recorders := recordersOf registry link.name read.device.recordTypes } := by
  have hfile' : (options.apply read).device.recordFile = none := hfile
  unfold run
  simp only [hread, hregistry, hlink, hserver, hfile', Except.mapError, bind, Except.bind]
  rfl

end Startup

namespace Gateway

/-- Only a message whose type has a schema is seen by listeners. -/
theorem contains_of_content_eq_ok {bus : Bus} {device : Option Int} {timestamp : Int}
    {packet : Bytes} {delivery : Bus.Delivery}
    (h : bus.content device timestamp packet = .ok delivery) :
    bus.registry.contains delivery.type = true := by
  unfold Bus.content at h
  cases hframe : bus.format.payloadFrame packet with
  | error error => simp [hframe] at h
  | ok found =>
    obtain ⟨type, frame⟩ := found
    simp only [hframe] at h
    cases hschema : bus.registry.schema? type with
    | none => simp [Registry.lookup, hschema] at h
    | some schema =>
      simp only [Registry.lookup, hschema] at h
      split at h
      · cases h
      · cases h
        rw [Registry.contains, hschema, Option.isSome_some]

/-- A message is recorded once for every time its type is listed. -/
theorem Equipped.records_receive_listed {gateway : Gateway} {startup : Startup}
    (h : gateway.Equipped startup) {files : FileView} {options : CommandLine.Options}
    (hrun : Startup.run files options = .ok startup) (keeps : Bool) (timestamp : Int)
    (packet : Bytes) :
    (gateway.receive keeps timestamp packet).1.records =
      match gateway.bus.content (startup.link.deviceId.map Int32.toInt) timestamp packet with
      | .error _ => []
      | .ok delivery => List.replicate (startup.settings.device.recordTypes.count delivery.type)
          (s!"{startup.link.name}/0x{Text.hexByte delivery.type}", delivery.record) := by
  rw [h.recorded]
  cases hcontent : gateway.bus.content (startup.link.deviceId.map Int32.toInt) timestamp packet with
  | error error => rfl
  | ok delivery =>
    have hschema : startup.registry.contains delivery.type = true := by
      rw [← h.startup_eq]
      exact contains_of_content_eq_ok hcontent
    simp only [Startup.recorders_of_run_eq_ok hrun, Startup.filter_recordersOf hschema,
      List.map_replicate]

/-- If no type is listed twice, a message of a listed type is recorded exactly
once and any other message never. -/
theorem Equipped.records_receive_of_nodup {gateway : Gateway} {startup : Startup}
    (h : gateway.Equipped startup) {files : FileView} {options : CommandLine.Options}
    (hrun : Startup.run files options = .ok startup)
    (hnodup : startup.settings.device.recordTypes.Nodup) (keeps : Bool) (timestamp : Int)
    (packet : Bytes) :
    (gateway.receive keeps timestamp packet).1.records =
      match gateway.bus.content (startup.link.deviceId.map Int32.toInt) timestamp packet with
      | .error _ => []
      | .ok delivery =>
        if delivery.type ∈ startup.settings.device.recordTypes then
          [(s!"{startup.link.name}/0x{Text.hexByte delivery.type}", delivery.record)]
        else [] := by
  rw [h.records_receive_listed hrun]
  split
  · rfl
  · rw [hnodup.count]
    split <;> rfl

end Gateway

/-! ### A type that is listed twice -/

namespace Startup

/-- The settings list one message type, two times. -/
def twiceListedFiles : FileView where
  read path :=
    if path = "gateway.toml" then .text "[device]\nrecord_types = [34, 34]\n"
    else .text "[[message]]\nname = \"Report\"\ntype = 34\nsize = 0\n"
  appendable _ := true

/-- The settings read from the files. -/
def twiceListedSettings : Settings := { device := { recordTypes := [34, 34] } }

/-- The message described by the files. It has no fields. -/
def report : MessageDescription where
  name := "Report"
  type := 34
  size := 0

def reportSchema : Schema where
  type := 34
  name := "Report"
  fields := []
  size := 0
  format := .current
  accepted := by
    simp [layoutFault?, fieldFault?, overlapFault?, overlapping?, byOffset, payloadFault?]

/-- What the gateway runs with. -/
def twiceListed : Startup where
  settings := twiceListedSettings
  registry := Registry.empty.insert reportSchema
  link :=
    { name := "base-station"
      address := "127.0.0.1:9001"
      queueCapacity := 256
      reconnectInterval := 2000
      handshakeTimeout := 5000 }
  server :=
    { bindAddress := ⟨.v4 0 0 0 0, 9002⟩
      messageType := 0
      format := .current
      relayPriority := 20
      outboundBuffer := 64
      handshakeTimeout := 5000 }
  recorders := recordersOf (Registry.empty.insert reportSchema) "base-station" [34, 34]

theorem ofFile_twiceListed :
    Settings.ofFile (twiceListedFiles.read "gateway.toml") = .ok twiceListedSettings := by
  decide +kernel

theorem registry_twiceListed :
    Registry.ofFile (twiceListedFiles.read "schemas.toml") = .ok twiceListed.registry := by
  have hmessages : MessageDescription.listOfText
      "[[message]]\nname = \"Report\"\ntype = 34\nsize = 0\n" = .ok [report] := by decide +kernel
  have hschema : report.schema = .ok reportSchema :=
    MessageDescription.schema_eq_ok reportSchema.accepted
  unfold twiceListedFiles Registry.ofFile
  simp only [show ¬ ("schemas.toml" = "gateway.toml") by decide, if_false]
  unfold Registry.ofText
  rw [hmessages]
  show Registry.registerDescribed Registry.empty report >>= _ = _
  rw [Registry.registerDescribed, hschema]
  rfl

/-- The address of the base station is not blank. -/
theorem link_twiceListed : twiceListedSettings.link = .ok twiceListed.link := by
  have hplain : Text.Plain "127.0.0.1:9001" := by
    have hall : ("127.0.0.1:9001".toList.all fun c => c != ',' && !Text.isBlank c) = true := by
      decide
    intro c hmem
    simpa using List.all_eq_true.mp hall c hmem
  have haddress : (Text.trim twiceListedSettings.device.address).isEmpty = false := by
    show (Text.trim "127.0.0.1:9001").isEmpty = false
    rw [hplain.trim_eq]
    decide
  unfold Settings.link
  simp only [haddress]
  decide

theorem server_twiceListed : twiceListedSettings.server = .ok twiceListed.server := by
  decide +kernel

/-- Startup goes through. -/
theorem run_twiceListed : run twiceListedFiles {} = .ok twiceListed := by
  have hoptions : ({} : CommandLine.Options).apply twiceListedSettings = twiceListedSettings := rfl
  have hregistry : Registry.ofFile (twiceListedFiles.read
      (({} : CommandLine.Options).apply twiceListedSettings).schemas) =
      .ok twiceListed.registry := by
    rw [hoptions]
    exact registry_twiceListed
  have hrun := @run_eq_ok twiceListedFiles {} twiceListedSettings twiceListed.registry
    twiceListed.link twiceListed.server ofFile_twiceListed hregistry
    (by rw [hoptions]; exact link_twiceListed) (by rw [hoptions]; exact server_twiceListed) rfl
  rw [hrun, hoptions]
  exact congrArg Except.ok (show Startup.mk twiceListedSettings twiceListed.registry
    twiceListed.link twiceListed.server twiceListed.recorders = twiceListed from rfl)

end Startup

namespace Gateway

/-- A packet with one report. -/
def reportPacket : Bytes := [0, 0xFF, 0xFF, 34, 0]

/-- What listeners see of the report. -/
def reportDelivery : Bus.Delivery where
  type := 34
  device := none
  timestamp := 10
  raw := reportPacket
  record :=
    { entries := [("timestamp", .int 10), ("generation_time", .int 10), ("device_id", .null)]
      nodup := by decide }

theorem content_report :
    (ofStartup Startup.twiceListed).bus.content none 10 reportPacket = .ok reportDelivery := by
  rfl

theorem count_report : Startup.twiceListed.settings.device.recordTypes.count 34 = 2 := by decide

/-- Both recorders of a type that is listed twice record the same message. -/
theorem exists_recorded_twice :
    ∃ (startup : Startup) (delivery : Bus.Delivery) (entry : String × Record),
      Startup.run Startup.twiceListedFiles {} = .ok startup ∧
      (ofStartup startup).bus.content none 10 reportPacket = .ok delivery ∧
      delivery.type ∈ startup.settings.device.recordTypes ∧
      (ofStartup startup).bus.registry.contains delivery.type = true ∧
      ((ofStartup startup).receive true 10 reportPacket).1.records = [entry, entry] := by
  have hrecords := (equipped_ofStartup Startup.twiceListed).records_receive_listed
    Startup.run_twiceListed true 10 reportPacket
  have hdevice : Startup.twiceListed.link.deviceId.map Int32.toInt = none := rfl
  have hlisted : (34 : MessageType) ∈ Startup.twiceListed.settings.device.recordTypes := by decide
  rw [hdevice, content_report] at hrecords
  simp only [show reportDelivery.type = 34 from rfl, count_report] at hrecords
  exact ⟨Startup.twiceListed, reportDelivery, _, Startup.run_twiceListed, content_report, hlisted,
    contains_of_content_eq_ok content_report, hrecords⟩

/-! ### The whole -/

/-- At any time, whatever happened before, a message is handed to the record
sink as often as the settings list its type, under the name of the link and
the type. A packet that is no message is not handed over. -/
theorem records_receive {files : FileView} {options : CommandLine.Options} {startup : Startup}
    (h : Startup.run files options = .ok startup) (events : List Event) (keeps : Bool)
    (timestamp : Int) (packet : Bytes) :
    let gateway := (ofStartup startup).run events
    (gateway.receive keeps timestamp packet).1.records =
      match gateway.bus.content (startup.link.deviceId.map Int32.toInt) timestamp packet with
      | .error _ => []
      | .ok delivery => List.replicate (startup.settings.device.recordTypes.count delivery.type)
          (s!"{startup.link.name}/0x{Text.hexByte delivery.type}", delivery.record) :=
  ((equipped_ofStartup startup).run events).records_receive_listed h keeps timestamp packet

/-- A report after a connection was accepted. -/
theorem records_receive_report :
    ∃ startup, Startup.run Startup.twiceListedFiles {} = .ok startup ∧
      (((ofStartup startup).run [.accept]).receive true 10 reportPacket).1.records =
        List.replicate 2 (s!"{startup.link.name}/0x{Text.hexByte 34}", reportDelivery.record) := by
  have hrecords := records_receive Startup.run_twiceListed [.accept] true 10 reportPacket
  have hdevice : Startup.twiceListed.link.deviceId.map Int32.toInt = none := rfl
  have hbus : ((ofStartup Startup.twiceListed).run [.accept]).bus =
      (ofStartup Startup.twiceListed).bus := rfl
  simp only [hdevice, hbus, content_report, show reportDelivery.type = 34 from rfl, count_report]
    at hrecords
  exact ⟨Startup.twiceListed, Startup.run_twiceListed, hrecords⟩

end Gateway

end SensorGateway
