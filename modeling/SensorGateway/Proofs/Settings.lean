import SensorGateway.Startup
import SensorGateway.Proofs.Toml.Range

/-!
# `SensorGateway.Proofs.Settings`: settings written and read back

Settings are written to a document, and `Proofs.Toml.Assembly` says what a reader finds
in it: the value of every setting under its key. What is left is that the sections take
their settings out of these values again.

* `GatewaySettings.ofToml?_toSection` and `DeviceSettings.ofToml?_toSection`: every
  member of a section finds its own entry, also behind entries that are left out because
  their setting has no value. Numbers keep their sign and their width.
* `Settings.bounded_of_ofFile`: settings that come from a file have no number that is too
  large for a document, because documents have none (`Proofs.Toml.Range`).
* `Settings.toText_readBack` puts both together.
-/

set_option autoImplicit false

namespace SensorGateway

namespace Toml

/-! ### Numbers and names -/

/-- A number that a document can hold is written as one of 64 bits. -/
theorem Setting.fits_count {n : Nat} (h : n ≤ Settings.maxCount) : (Setting.count n).Fits := by
  unfold Settings.maxCount at h
  constructor
  · omega
  · show (n : Int) < 2 ^ 63
    omega

theorem Setting.fits_uint8 (n : UInt8) : (Setting.count n.toNat).Fits := by
  have hlt := n.toNat_lt
  exact fits_count (by unfold Settings.maxCount; omega)

theorem Setting.fits_uint16 (n : UInt16) : (Setting.count n.toNat).Fits := by
  have hlt := n.toNat_lt
  exact fits_count (by unfold Settings.maxCount; omega)

theorem Setting.fits_int32 (n : Int32) : (Setting.integer n.toInt).Fits := by
  have hlow := n.le_toInt
  have hhigh := n.toInt_lt
  constructor
  · omega
  · show n.toInt < 2 ^ 63
    omega

theorem asNat?_count {width n : Nat} (h : n < 2 ^ width) :
    (Setting.count n).toToml.asNat? width = some n := by
  have hle : (n : Int) ≤ 2 ^ width - 1 := by
    have hcast : ((2 ^ width : Nat) : Int) = 2 ^ width := by push_cast; rfl
    omega
  show (if (0 : Int) ≤ n ∧ (n : Int) ≤ 2 ^ width - 1 then some (n : Int) else none).map Int.toNat =
    some n
  rw [if_pos ⟨Int.natCast_nonneg n, hle⟩]
  rfl

theorem asCount?_count {n : Nat} (h : n ≤ Settings.maxCount) :
    (Setting.count n).toToml.asCount? = some n :=
  asNat?_count (Nat.lt_of_le_of_lt h (by decide))

theorem asUInt8?_count (n : UInt8) : (Setting.count n.toNat).toToml.asUInt8? = some n := by
  rw [asUInt8?, asNat?_count n.toNat_lt, Option.map_some, UInt8.ofNat_toNat]

theorem asUInt16?_count (n : UInt16) : (Setting.count n.toNat).toToml.asUInt16? = some n := by
  rw [asUInt16?, asNat?_count n.toNat_lt, Option.map_some, UInt16.ofNat_toNat]

theorem asInt32?_integer (n : Int32) : (Setting.integer n.toInt).toToml.asInt32? = some n := by
  have hlow := n.le_toInt
  have hhigh := n.toInt_lt
  show (if -2 ^ 31 ≤ n.toInt ∧ n.toInt ≤ 2 ^ 31 - 1 then some n.toInt else none).map Int32.ofInt = _
  rw [if_pos ⟨hlow, by omega⟩, Option.map_some, Int32.ofInt_toInt]

theorem asFormat?_label (format : WireFormat) :
    (Setting.text format.label).toToml.asFormat? = some format := by
  cases format <;> decide

theorem asList?_integers (types : List MessageType) :
    (Setting.integers (types.map fun type => (type.toNat : Int))).toToml.asList? asUInt8? =
      some types := by
  show ((types.map fun type => (type.toNat : Int)).map Toml.integer).mapM asUInt8? = some types
  induction types with
  | nil => rfl
  | cons type types ih =>
    have hfirst : asUInt8? (.integer type.toNat) = some type := asUInt8?_count type
    rw [List.map_cons, List.map_cons, List.mapM_cons, hfirst, ih]
    rfl

/-- A number of a document is none that is too large for one. -/
theorem Long.le_of_asCount? {value : Toml} (hvalue : value.Long) {n : Nat}
    (h : value.asCount? = some n) : n ≤ Settings.maxCount := by
  obtain ⟨m, hm, rfl⟩ := Option.map_eq_some_iff.mp h
  cases hvalue with
  | integer hlong =>
    obtain rfl := Option.some.inj (Option.ite_none_right_eq_some.mp hm).2
    have hlt := hlong.2
    unfold Settings.maxCount
    omega
  | _ => cases hm

/-! ### Members that may be left out -/

theorem orNone_map {α : Type} {read : Toml → Option α} {write : α → Setting}
    (h : ∀ a, read (write a).toToml = some a) (value : Option α) :
    orNone read ((value.map write).map Setting.toToml) = some value := by
  cases value with
  | none => rfl
  | some a =>
    show (read (write a).toToml).map some = some (some a)
    rw [h]
    rfl

/-- What is read has a property if what is read from a member has it, and what stands for
a missing member as well. -/
theorem optional_induction {α : Type} {P : α → Prop} {read : Toml → Option α}
    {fallback result : α} {member : Option Toml} (hfallback : P fallback)
    (hread : ∀ value ∈ member, ∀ a, read value = some a → P a)
    (h : optional read fallback member = some result) : P result := by
  cases member with
  | none =>
    obtain rfl : fallback = result := Option.some.inj h
    exact hfallback
  | some value => exact hread value rfl result h

theorem Long.le_of_optional_asCount? {value : Toml} (hvalue : value.Long) {names : List String}
    {name : String} {fallback n : Nat} (hfallback : fallback ≤ Settings.maxCount)
    (h : optional asCount? fallback (value.member? names name) = some n) :
    n ≤ Settings.maxCount :=
  optional_induction (P := fun n => n ≤ Settings.maxCount) hfallback
    (fun _ hmember _ => (hvalue.member? hmember).le_of_asCount?) h

/-! ### Entries of a section -/

theorem lookup_values_nil (name : String) : (Section.values []).lookup name = none := rfl

theorem lookup_values_cons (key : String) (setting : Setting) (entries : Section)
    (name : String) :
    (Section.values ((key, setting) :: entries)).lookup name =
      if name = key then some setting.toToml else entries.values.lookup name := by
  show ((key, setting.toToml) :: entries.values).lookup name = _
  rw [List.lookup_cons]
  by_cases hname : name = key
  · simp [hname]
  · simp [hname, beq_false_of_ne hname]

theorem lookup_values_append (front back : Section) (name : String) :
    (Section.values (front ++ back)).lookup name =
      (front.values.lookup name).or (back.values.lookup name) := by
  rw [Section.values, List.map_append]
  exact List.lookup_append

theorem lookup_values_assignment? (key : String) (setting : Option Setting) (name : String) :
    (Section.values (assignment? key setting)).lookup name =
      if name = key then setting.map Setting.toToml else none := by
  cases setting with
  | none => simp [assignment?, Section.values]
  | some setting => exact lookup_values_cons key setting [] name

theorem keys_assignment?_sublist (key : String) (setting : Option Setting) :
    ((assignment? key setting).map Prod.fst).Sublist [key] := by
  cases setting with
  | none => exact List.nil_sublist [key]
  | some setting => exact List.Sublist.refl [key]

theorem forall_mem_assignment? {key : String} {setting : Option Setting} :
    (∀ entry ∈ assignment? key setting, entry.2.Fits) ↔ ∀ value ∈ setting, value.Fits := by
  cases setting <;> simp [assignment?]

/-- Keys taken from a list of bare and distinct ones are such keys themselves. -/
theorem Section.sound_of_sublist {entries : Section} {names : List String}
    (hkeys : (entries.map Prod.fst).Sublist names) (hnodup : names.Nodup)
    (hbare : ∀ name ∈ names, Bare name) (hfits : ∀ entry ∈ entries, entry.2.Fits) :
    entries.Sound where
  bare entry hentry := hbare entry.1 (hkeys.subset (List.mem_map_of_mem hentry))
  fits := hfits
  nodup := hnodup.sublist hkeys

end Toml

/-! ### The port offered to clients -/

/-- No number of the section is too large for a document. -/
structure GatewaySettings.Bounded (settings : GatewaySettings) : Prop where
  outboundBuffer : settings.outboundBuffer ≤ Settings.maxCount
  handshakeTimeout : settings.handshakeTimeout ≤ Settings.maxCount

/-- A section is read member by member. -/
theorem GatewaySettings.ofToml?_eq_some_iff (value : Toml) (settings : GatewaySettings) :
    ofToml? value = some settings ↔ value.isRecord = true ∧
      Toml.optional Toml.asString? "0.0.0.0" (value.member? memberNames "bind_address") =
        some settings.bindAddress ∧
      Toml.optional Toml.asUInt16? 9002 (value.member? memberNames "sf_port") =
        some settings.port ∧
      Toml.optional Toml.asUInt8? 0 (value.member? memberNames "message_type") =
        some settings.messageType ∧
      Toml.optional Toml.asUInt8? 20 (value.member? memberNames "relay_priority") =
        some settings.relayPriority ∧
      Toml.optional Toml.asCount? 64 (value.member? memberNames "outbound_buffer") =
        some settings.outboundBuffer ∧
      Toml.optional Toml.asCount? 5000 (value.member? memberNames "handshake_timeout_ms") =
        some settings.handshakeTimeout := by
  obtain ⟨_, _, _, _, _, _⟩ := settings
  simp [ofToml?, Option.bind_eq_some_iff]

theorem GatewaySettings.bounded_of_ofToml? {value : Toml} (hvalue : value.Long)
    {settings : GatewaySettings} (h : ofToml? value = some settings) : settings.Bounded := by
  obtain ⟨-, -, -, -, -, hbuffer, htimeout⟩ := (ofToml?_eq_some_iff value settings).mp h
  exact ⟨hvalue.le_of_optional_asCount? (by decide) hbuffer,
    hvalue.le_of_optional_asCount? (by decide) htimeout⟩

theorem GatewaySettings.Bounded.ofToml?_toSection {settings : GatewaySettings}
    (h : settings.Bounded) : ofToml? (.table settings.toSection.values) = some settings := by
  rw [ofToml?_eq_some_iff]
  simp only [Toml.member?, toSection, Toml.lookup_values_cons, String.reduceEq, if_true, if_false]
  refine ⟨rfl, rfl, ?_, ?_, ?_, ?_, ?_⟩
  · exact Toml.asUInt16?_count settings.port
  · exact Toml.asUInt8?_count settings.messageType
  · exact Toml.asUInt8?_count settings.relayPriority
  · exact Toml.asCount?_count h.outboundBuffer
  · exact Toml.asCount?_count h.handshakeTimeout

theorem GatewaySettings.Bounded.sound_toSection {settings : GatewaySettings}
    (h : settings.Bounded) : settings.toSection.Sound := by
  have hkeys : (settings.toSection.map Prod.fst).Sublist memberNames := List.Sublist.refl _
  refine Toml.Section.sound_of_sublist hkeys (by decide) (by decide) ?_
  simp only [toSection, List.forall_mem_cons, List.not_mem_nil, false_implies, implies_true,
    and_true]
  refine ⟨True.intro, ?_, ?_, ?_, ?_, ?_⟩
  · exact Toml.Setting.fits_uint16 settings.port
  · exact Toml.Setting.fits_uint8 settings.messageType
  · exact Toml.Setting.fits_uint8 settings.relayPriority
  · exact Toml.Setting.fits_count h.outboundBuffer
  · exact Toml.Setting.fits_count h.handshakeTimeout

/-! ### The base station -/

/-- No number of the section is too large for a document. -/
structure DeviceSettings.Bounded (settings : DeviceSettings) : Prop where
  sendTimeout : settings.sendTimeout ≤ Settings.maxCount
  reconnectInterval : settings.reconnectInterval ≤ Settings.maxCount
  queueCapacity : settings.queueCapacity ≤ Settings.maxCount

/-- A section is read member by member. -/
theorem DeviceSettings.ofToml?_eq_some_iff (value : Toml) (settings : DeviceSettings) :
    ofToml? value = some settings ↔ value.isRecord = true ∧
      Toml.optional Toml.asString? "base-station" (value.member? memberNames "name") =
        some settings.name ∧
      Toml.optional Toml.asString? "127.0.0.1:9001" (value.member? memberNames "address") =
        some settings.address ∧
      Toml.optional Toml.asFormat? .current (value.member? memberNames "wire_format") =
        some settings.format ∧
      Toml.orNone Toml.asInt32? (value.member? memberNames "device_id") = some settings.deviceId ∧
      Toml.optional Toml.asUInt8? defaultPriority (value.member? memberNames "priority") =
        some settings.priority ∧
      Toml.optional Toml.asCount? 5000 (value.member? memberNames "send_timeout_ms") =
        some settings.sendTimeout ∧
      Toml.optional Toml.asCount? 2000 (value.member? memberNames "reconnect_interval_ms") =
        some settings.reconnectInterval ∧
      Toml.optional Toml.asCount? 256 (value.member? memberNames "queue_capacity") =
        some settings.queueCapacity ∧
      Toml.orNone Toml.asUInt8? (value.member? memberNames "ack_type") = some settings.ackType ∧
      Toml.optional (Toml.asList? Toml.asUInt8?) [] (value.member? memberNames "record_types") =
        some settings.recordTypes ∧
      Toml.orNone Toml.asString? (value.member? memberNames "record_file") =
        some settings.recordFile := by
  obtain ⟨_, _, _, _, _, _, _, _, _, _, _⟩ := settings
  simp [ofToml?, Option.bind_eq_some_iff]

theorem DeviceSettings.bounded_of_ofToml? {value : Toml} (hvalue : value.Long)
    {settings : DeviceSettings} (h : ofToml? value = some settings) : settings.Bounded := by
  obtain ⟨-, -, -, -, -, -, hsend, hreconnect, hqueue, -, -, -⟩ :=
    (ofToml?_eq_some_iff value settings).mp h
  exact ⟨hvalue.le_of_optional_asCount? (by decide) hsend,
    hvalue.le_of_optional_asCount? (by decide) hreconnect,
    hvalue.le_of_optional_asCount? (by decide) hqueue⟩

/-- An entry that is left out is read as a setting without a value. -/
theorem DeviceSettings.Bounded.ofToml?_toSection {settings : DeviceSettings}
    (h : settings.Bounded) : ofToml? (.table settings.toSection.values) = some settings := by
  rw [ofToml?_eq_some_iff]
  simp only [Toml.member?, toSection, Toml.lookup_values_append, Toml.lookup_values_cons,
    Toml.lookup_values_nil, Toml.lookup_values_assignment?, String.reduceEq, if_true, if_false,
    Option.or_none, Option.none_or]
  refine ⟨rfl, rfl, rfl, ?_, ?_, ?_, ?_, ?_, ?_, ?_, ?_, ?_⟩
  · exact Toml.asFormat?_label settings.format
  · exact Toml.orNone_map Toml.asInt32?_integer settings.deviceId
  · exact Toml.asUInt8?_count settings.priority
  · exact Toml.asCount?_count h.sendTimeout
  · exact Toml.asCount?_count h.reconnectInterval
  · exact Toml.asCount?_count h.queueCapacity
  · exact Toml.orNone_map Toml.asUInt8?_count settings.ackType
  · exact Toml.asList?_integers settings.recordTypes
  · exact Toml.orNone_map (fun _ => rfl) settings.recordFile

/-- Settings without a value leave gaps, but no key changes its place. -/
theorem DeviceSettings.keys_toSection_sublist (settings : DeviceSettings) :
    (settings.toSection.map Prod.fst).Sublist memberNames := by
  have hid := Toml.keys_assignment?_sublist "device_id"
    (settings.deviceId.map fun id => .integer id.toInt)
  have hack := Toml.keys_assignment?_sublist "ack_type"
    (settings.ackType.map fun type => .count type.toNat)
  have hfile := Toml.keys_assignment?_sublist "record_file" (settings.recordFile.map .text)
  simp only [toSection, List.map_append]
  exact ((((((List.Sublist.refl ["name", "address", "wire_format"]).append hid).append
    (List.Sublist.refl ["priority", "send_timeout_ms", "reconnect_interval_ms",
      "queue_capacity"])).append hack).append (List.Sublist.refl ["record_types"])).append hfile)

theorem DeviceSettings.Bounded.sound_toSection {settings : DeviceSettings}
    (h : settings.Bounded) : settings.toSection.Sound := by
  refine Toml.Section.sound_of_sublist settings.keys_toSection_sublist (by decide) (by decide) ?_
  simp only [toSection, List.forall_mem_append, List.forall_mem_cons, List.not_mem_nil,
    false_implies, implies_true, and_true, Toml.forall_mem_assignment?, and_assoc]
  refine ⟨True.intro, True.intro, True.intro, ?_, ?_, ?_, ?_, ?_, ?_, ?_, ?_⟩
  · intro setting hsetting
    obtain ⟨id, -, rfl⟩ := Option.mem_map.mp hsetting
    exact Toml.Setting.fits_int32 id
  · exact Toml.Setting.fits_uint8 settings.priority
  · exact Toml.Setting.fits_count h.sendTimeout
  · exact Toml.Setting.fits_count h.reconnectInterval
  · exact Toml.Setting.fits_count h.queueCapacity
  · intro setting hsetting
    obtain ⟨type, -, rfl⟩ := Option.mem_map.mp hsetting
    exact Toml.Setting.fits_uint8 type
  · intro n hn
    obtain ⟨type, -, rfl⟩ := List.mem_map.mp hn
    exact Toml.Setting.fits_uint8 type
  · intro setting hsetting
    obtain ⟨path, -, rfl⟩ := Option.mem_map.mp hsetting
    exact True.intro

/-! ### Diagnostics -/

theorem LoggingSettings.ofToml?_toSection (settings : LoggingSettings) :
    ofToml? (.table settings.toSection.values) = some settings := rfl

theorem LoggingSettings.sound_toSection (settings : LoggingSettings) :
    settings.toSection.Sound := by
  have hkeys : (settings.toSection.map Prod.fst).Sublist ["level"] := List.Sublist.refl _
  refine Toml.Section.sound_of_sublist hkeys (by decide) (by decide) ?_
  intro entry hentry
  obtain rfl := List.mem_singleton.mp hentry
  exact True.intro

/-! ### Settings as a document -/

namespace Settings

/-- The settings outside all sections. -/
def entries (settings : Settings) : Toml.Section := [("schemas", .text settings.schemas)]

/-- The sections under their headers. -/
def tables (settings : Settings) : List (String × Toml.Section) :=
  [("gateway", settings.gateway.toSection), ("device", settings.device.toSection),
    ("logging", settings.logging.toSection)]

/-- No number of the settings is too large for a document. -/
structure Bounded (settings : Settings) : Prop where
  gateway : settings.gateway.Bounded
  device : settings.device.Bounded

variable {settings : Settings}

theorem bounded_iff : settings.Bounded ↔ ∀ n ∈ settings.counts, n ≤ maxCount := by
  simp only [counts, List.forall_mem_cons, List.not_mem_nil, false_implies, implies_true, and_true]
  constructor
  · rintro ⟨⟨hbuffer, htimeout⟩, hsend, hreconnect, hqueue⟩
    exact ⟨hbuffer, htimeout, hsend, hreconnect, hqueue⟩
  · rintro ⟨hbuffer, htimeout, hsend, hreconnect, hqueue⟩
    exact ⟨⟨hbuffer, htimeout⟩, hsend, hreconnect, hqueue⟩

theorem toText_eq_ok_iff {text : String} : settings.toText = .ok text ↔
    settings.Bounded ∧ Toml.writeDocument settings.entries settings.tables = text := by
  rw [bounded_iff]
  unfold toText
  split
  · next hall =>
    have hbounded : ∀ n ∈ settings.counts, n ≤ maxCount := by simpa using hall
    exact ⟨fun h => ⟨hbounded, Except.ok.inj h⟩, fun h => congrArg Except.ok h.2⟩
  · next hall =>
    constructor
    · intro h
      cases h
    · intro h
      exact absurd (by simpa using h.1) hall

theorem Bounded.writable (h : settings.Bounded) :
    Toml.Writable settings.entries settings.tables where
  settings := by
    have hkeys : (settings.entries.map Prod.fst).Sublist ["schemas"] := List.Sublist.refl _
    refine Toml.Section.sound_of_sublist hkeys (by decide) (by decide) ?_
    intro entry hentry
    obtain rfl := List.mem_singleton.mp hentry
    exact True.intro
  headers := by
    have hbare : ∀ name ∈ ["gateway", "device", "logging"], Toml.Bare name := by decide
    intro table htable
    exact hbare table.1 (List.mem_map_of_mem htable)
  sections := by
    simp only [tables, List.forall_mem_cons, List.not_mem_nil, false_implies, implies_true,
      and_true]
    exact ⟨h.gateway.sound_toSection, h.device.sound_toSection,
      settings.logging.sound_toSection⟩
  nodup := by
    show ["schemas", "gateway", "device", "logging"].Nodup
    decide

/-- The members in the order in which a list gives them. -/
def memberNames : List String := ["schemas", "gateway", "device", "logging"]

/-- A document is read section by section. -/
theorem ofToml?_eq_some_iff (value : Toml) (settings : Settings) :
    ofToml? value = some settings ↔
      Toml.optional Toml.asString? "schemas.toml" (value.member? memberNames "schemas") =
        some settings.schemas ∧
      Toml.optional GatewaySettings.ofToml? {} (value.member? memberNames "gateway") =
        some settings.gateway ∧
      Toml.optional DeviceSettings.ofToml? {} (value.member? memberNames "device") =
        some settings.device ∧
      Toml.optional LoggingSettings.ofToml? {} (value.member? memberNames "logging") =
        some settings.logging := by
  obtain ⟨_, _, _, _⟩ := settings
  simp [ofToml?, memberNames, Option.bind_eq_some_iff]

theorem Bounded.ofText_writeDocument (h : settings.Bounded) :
    ofText (Toml.writeDocument settings.entries settings.tables) = .ok settings := by
  have hread : ofToml? (Toml.documentValue settings.entries settings.tables) = some settings := by
    rw [ofToml?_eq_some_iff]
    refine ⟨rfl, ?_, ?_, ?_⟩
    · exact h.gateway.ofToml?_toSection
    · exact h.device.ofToml?_toSection
    · exact settings.logging.ofToml?_toSection
  rw [ofText, h.writable.parse?, Option.bind_some, hread]

/-- Settings from a file can be written to one. Those of a missing file are the defaults. -/
theorem bounded_of_ofFile {content : FileContent} (h : ofFile content = .ok settings) :
    settings.Bounded := by
  -- A missing section stands for its defaults, as a missing file does for all of them.
  have hgateway : GatewaySettings.Bounded {} := ⟨by decide, by decide⟩
  have hdevice : DeviceSettings.Bounded {} := ⟨by decide, by decide, by decide⟩
  cases content with
  | missing =>
    obtain rfl := Except.ok.inj h
    exact ⟨hgateway, hdevice⟩
  | unreadable => cases h
  | text text =>
    dsimp only [ofFile, ofText] at h
    split at h
    · next read hread =>
      obtain rfl := Except.ok.inj h
      obtain ⟨value, hparse, hread⟩ := Option.bind_eq_some_iff.mp hread
      obtain ⟨-, hreadGateway, hreadDevice, -⟩ := (ofToml?_eq_some_iff value read).mp hread
      have hlong := Toml.long_of_parse? hparse
      constructor
      · exact Toml.optional_induction hgateway
          (fun _ hmember _ => GatewaySettings.bounded_of_ofToml? (hlong.member? hmember))
          hreadGateway
      · exact Toml.optional_induction hdevice
          (fun _ hmember _ => DeviceSettings.bounded_of_ofToml? (hlong.member? hmember))
          hreadDevice
    · cases h

/-- Settings can be written exactly if none of their numbers exceeds the largest number
of a document, and what is written is read back as the same settings. Settings that come
from a file are among them. -/
theorem toText_readBack :
    (∀ settings : Settings,
      (∃ text, settings.toText = .ok text) ↔ ∀ n ∈ settings.counts, n ≤ 2 ^ 63 - 1) ∧
    (∀ (settings : Settings) (text : String),
      settings.toText = .ok text → ofText text = .ok settings) ∧
    ∀ (content : FileContent) (settings : Settings), ofFile content = .ok settings →
      ∃ text, settings.toText = .ok text ∧ ofText text = .ok settings := by
  refine ⟨?_, ?_, ?_⟩
  · intro settings
    show _ ↔ ∀ n ∈ settings.counts, n ≤ maxCount
    rw [← bounded_iff]
    constructor
    · rintro ⟨text, htext⟩
      exact (toText_eq_ok_iff.mp htext).1
    · intro hbounded
      exact ⟨_, toText_eq_ok_iff.mpr ⟨hbounded, rfl⟩⟩
  · intro settings text htext
    obtain ⟨hbounded, rfl⟩ := toText_eq_ok_iff.mp htext
    exact hbounded.ofText_writeDocument
  · intro content settings hread
    have hbounded := bounded_of_ofFile hread
    exact ⟨_, toText_eq_ok_iff.mpr ⟨hbounded, rfl⟩, hbounded.ofText_writeDocument⟩

/-- Settings with the largest number there is, all kinds of quotes, line ends and control
characters, and every setting that may be left out. -/
def intricate : Settings where
  schemas := "it's \"\"\"here\"\"\"\r\n"
  gateway := { outboundBuffer := 2 ^ 63 - 1 }
  device := {
    name := "[gateway]\nsf_port = 1\n\x07"
    deviceId := some (-1)
    ackType := some 255
    recordTypes := [34, 34]
    recordFile := some "" }

theorem toText_readBack_intricate :
    ∃ text, intricate.toText = .ok text ∧ ofText text = .ok intricate := by
  obtain ⟨hwritable, hread, -⟩ := toText_readBack
  obtain ⟨text, htext⟩ := (hwritable intricate).mpr (by decide)
  exact ⟨text, htext, hread intricate text htext⟩

/-- The first number that is too large. -/
example : toText { gateway := { outboundBuffer := 2 ^ 63 } } = .error .unwritable := rfl

end Settings

end SensorGateway
