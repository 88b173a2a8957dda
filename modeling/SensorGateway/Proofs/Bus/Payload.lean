import Mathlib.Data.List.Perm.Subperm
import SensorGateway.Proofs.Link.PacketLimit
import SensorGateway.Proofs.Text.Numeral
import SensorGateway.Proofs.Wrapping

/-!
# `SensorGateway.Proofs.Bus.Payload`: bytes for the mote that was asked for

The action `payload` looks its three parameters up by name, one after the
other, and reads two of them as numbers. What the operator asks for is said
here without any lookup: `Form` takes the names in any order and any case of
ASCII letters, and `Asked` adds which numbers the texts spell.

* `form_iff`: three lookups find three texts exactly when the names are the
  three that are needed. A name that occurs twice leaves no room for one of
  the others.
* `payload_eq_ok_iff`: the packets the action makes.
* `command_payload`: for which plugins and parameters there is a packet, what
  it says when it is taken apart, and who is refused whatever he asks for.
-/

set_option autoImplicit false

namespace SensorGateway

namespace Text

/-! ### Names and numbers -/

/-- A text with its ASCII letters in lower case. -/
def asciiFolded (text : String) : String := String.ofList (text.toList.map asciiLowercase)

theorem asciiFolded_eq_iff (a b : String) :
    asciiFolded a = asciiFolded b ↔ sameIgnoringAsciiCase a b = true := by
  rw [asciiFolded, asciiFolded, String.ofList_inj, sameIgnoringAsciiCase, beq_iff_eq]

/-- The natural number that a text spells in decimal, with or without a plus
sign. -/
def decimal? (text : String) : Option Nat := spelled? 10 (dropPlus text.toList)

theorem parseUnsigned_eq_ok_iff (width : Nat) (text : String) (n : Nat) :
    parseUnsigned width text = .ok n ↔ decimal? text = some n ∧ n < 2 ^ width := by
  have hpos := Nat.two_pow_pos width
  have hlt : n ≤ 2 ^ width - 1 ↔ n < 2 ^ width := by omega
  rw [parseUnsigned, unsignedNumeral_eq_ok_iff (by decide), hlt, decimal?]

end Text

namespace Bus.MessagePlugin

theorem number_eq_ok_iff (width : Nat) (name text : String) (n : Nat) :
    number width name text = .ok n ↔ Text.decimal? (Text.trim text) = some n ∧ n < 2 ^ width := by
  rw [← Text.parseUnsigned_eq_ok_iff, number]
  cases Text.parseUnsigned width (Text.trim text) <;> simp

/-! ### Forms -/

/-- The parameters with the ASCII letters of their names in lower case. -/
def folded (names values : List String) : List (String × String) :=
  (names.map Text.asciiFolded).zip values

/-- Three names with a text each: `destination`, `am_type` and `data` in any
order and any case of ASCII letters. -/
structure Form (names values : List String) (destination type data : String) : Prop where
  length_names : names.length = 3
  length_values : values.length = 3
  perm : (folded names values).Perm
    [("destination", destination), ("am_type", type), ("data", data)]

/-- A parameter is looked up among folded names. -/
theorem get?_eq_find? (names values : List String) {name : String}
    (hname : Text.asciiFolded name = name) :
    (Parameters.mk (names.zip values)).get? name =
      ((folded names values).find? fun pair => pair.1 == name).map Prod.snd := by
  have hmap : folded names values =
      (names.zip values).map fun pair => (Text.asciiFolded pair.1, pair.2) :=
    List.zip_map_left ..
  have htest : (fun pair : String × String => Text.sameIgnoringAsciiCase pair.1 name) =
      (fun pair => pair.1 == name) ∘ fun pair => (Text.asciiFolded pair.1, pair.2) := by
    funext pair
    show Text.sameIgnoringAsciiCase pair.1 name = (Text.asciiFolded pair.1 == name)
    rw [Bool.eq_iff_iff, beq_iff_eq, ← Text.asciiFolded_eq_iff, hname]
  rw [Parameters.get?, hmap, List.find?_map, htest, Option.map_map]
  rfl

/-- Where the names are distinct, the text of a name is found in any order. -/
theorem find?_of_perm {pairs wanted : List (String × String)} (hperm : pairs.Perm wanted)
    (hnodup : (wanted.map Prod.fst).Nodup) {name text : String} (hmem : (name, text) ∈ wanted) :
    (pairs.find? fun pair => pair.1 == name).map Prod.snd = some text := by
  cases hfind : pairs.find? fun pair => pair.1 == name with
  | none =>
    have hnone := List.find?_eq_none.mp hfind _ (hperm.mem_iff.mpr hmem)
    exact absurd (beq_self_eq_true name) hnone
  | some pair =>
    have hname := List.find?_some hfind
    rw [beq_iff_eq] at hname
    have hin : pair ∈ wanted := hperm.mem_iff.mp (List.mem_of_find?_eq_some hfind)
    rw [List.inj_on_of_nodup_map hnodup hin hmem hname]
    rfl

theorem mem_of_get?_eq_some {names values : List String} {name text : String}
    (hname : Text.asciiFolded name = name)
    (h : (Parameters.mk (names.zip values)).get? name = some text) :
    (name, text) ∈ folded names values := by
  rw [get?_eq_find? names values hname] at h
  obtain ⟨pair, hfind, rfl⟩ := Option.map_eq_some_iff.mp h
  have hpair := List.find?_some hfind
  rw [beq_iff_eq] at hpair
  rw [← hpair]
  exact List.mem_of_find?_eq_some hfind

/-- Three texts are found among three parameters exactly when the names are the
three that are looked up: a name that is none of them, or one of them again,
would take the place of another. -/
theorem form_iff (names values : List String) (destination type data : String) :
    Form names values destination type data ↔
      names.length = 3 ∧ values.length = 3 ∧
        (Parameters.mk (names.zip values)).get? "destination" = some destination ∧
        (Parameters.mk (names.zip values)).get? "am_type" = some type ∧
        (Parameters.mk (names.zip values)).get? "data" = some data := by
  have hfolded : ∀ name ∈ ["destination", "am_type", "data"], Text.asciiFolded name = name := by
    decide
  constructor
  · intro h
    have hfound : ∀ name text,
        (name, text) ∈ [("destination", destination), ("am_type", type), ("data", data)] →
        (Parameters.mk (names.zip values)).get? name = some text := by
      intro name text hmem
      rw [get?_eq_find? names values (hfolded name (List.mem_map_of_mem (f := Prod.fst) hmem))]
      exact find?_of_perm h.perm (by simp) hmem
    exact ⟨h.length_names, h.length_values, hfound _ _ (by simp), hfound _ _ (by simp),
      hfound _ _ (by simp)⟩
  · rintro ⟨hnames, hvalues, hdestination, htype, hdata⟩
    refine ⟨hnames, hvalues, ?_⟩
    have hsubset : [("destination", destination), ("am_type", type), ("data", data)] ⊆
        folded names values := by
      intro pair hpair
      simp only [List.mem_cons, List.not_mem_nil, or_false] at hpair
      obtain rfl | rfl | rfl := hpair
      · exact mem_of_get?_eq_some (hfolded _ (by simp)) hdestination
      · exact mem_of_get?_eq_some (hfolded _ (by simp)) htype
      · exact mem_of_get?_eq_some (hfolded _ (by simp)) hdata
    have hlength : (folded names values).length = 3 := by
      rw [folded, List.length_zip, List.length_map, hnames, hvalues]
      rfl
    have hnodup : [("destination", destination), ("am_type", type), ("data", data)].Nodup := by
      simp
    -- Three different parameters among three are all of them.
    exact ((List.subperm_of_subset hnodup hsubset).perm_of_length_le (by rw [hlength]; simp)).symm

/-! ### The action -/

/-- What an operator asks for with the parameters of the action: a destination,
a message type and the bytes of a text. -/
def Asked (names values : List String) (destination : UInt16) (type : MessageType)
    (data : Bytes) : Prop :=
  ∃ destinationText typeText dataText,
    Form names values destinationText typeText dataText ∧
    Text.decimal? (Text.trim destinationText) = some destination.toNat ∧
    Text.decimal? (Text.trim typeText) = some type.toNat ∧
    Text.utf8 dataText = data

/-- The action makes the packet that was asked for, and nothing else. -/
theorem payload_eq_ok_iff (plugin : MessagePlugin) (names values : List String)
    (command : Command) :
    plugin.payload names values = .ok command ↔
      ∃ destination type data packet, Asked names values destination type data ∧
        plugin.format.wrap destination type data = .ok packet ∧ command = .packet packet := by
  unfold payload
  by_cases hcount : names.length = 3 ∧ values.length = 3
  · have hequal : names.length = values.length := hcount.1.trans hcount.2.symm
    rw [if_neg (by omega)]
    simp only [Except.bind_eq_ok_iff, Except.mapError_eq_ok_iff, Parameters.ofLists_eq_ok_iff,
      required_eq_ok_iff, number_eq_ok_iff]
    constructor
    · rintro ⟨_, ⟨-, rfl⟩, destinationText, hdestination, m, ⟨hm, hmlt⟩, typeText, htype, n,
        ⟨hn, hnlt⟩, dataText, hdata, packet, hwrap, hpacket⟩
      have hform := (form_iff names values destinationText typeText dataText).mpr
        ⟨hcount.1, hcount.2, hdestination, htype, hdata⟩
      refine ⟨_, _, _, packet, ⟨destinationText, typeText, dataText, hform, ?_, ?_, rfl⟩, hwrap,
        (Except.ok.inj hpacket).symm⟩
      · -- The numbers were found to be in range, so none is cut off.
        rw [hm, UInt16.toNat_ofNat', Nat.mod_eq_of_lt hmlt]
      · rw [hn, UInt8.toNat_ofNat', Nat.mod_eq_of_lt hnlt]
    · rintro ⟨destination, type, _, packet, ⟨destinationText, typeText, dataText, hform, hm, hn,
        rfl⟩, hwrap, rfl⟩
      obtain ⟨-, -, hdestination, htype, hdata⟩ :=
        (form_iff names values destinationText typeText dataText).mp hform
      refine ⟨_, ⟨hequal, rfl⟩, destinationText, hdestination, destination.toNat,
        ⟨hm, destination.toNat_lt⟩, typeText, htype, type.toNat, ⟨hn, type.toNat_lt⟩, dataText,
        hdata, packet, ?_, rfl⟩
      rw [UInt16.ofNat_toNat, UInt8.ofNat_toNat]
      exact hwrap
  · -- Without three of each, nothing is looked up.
    rw [if_pos (by omega)]
    constructor
    · intro h
      cases h
    · rintro ⟨_, _, _, _, ⟨_, _, _, hform, -⟩, -⟩
      exact absurd ⟨hform.length_names, hform.length_values⟩ hcount

/-- What was asked for is one thing only. -/
theorem Asked.unique {names values : List String} {destination destination' : UInt16}
    {type type' : MessageType} {data data' : Bytes} (h : Asked names values destination type data)
    (h' : Asked names values destination' type' data') :
    destination = destination' ∧ type = type' ∧ data = data' := by
  obtain ⟨_, _, _, hform, hm, hn, rfl⟩ := h
  obtain ⟨_, _, _, hform', hm', hn', rfl⟩ := h'
  obtain ⟨-, -, hdestination, htype, hdata⟩ := (form_iff ..).mp hform
  obtain ⟨-, -, hdestination', htype', hdata'⟩ := (form_iff ..).mp hform'
  cases hdestination.symm.trans hdestination'
  cases htype.symm.trans htype'
  cases hdata.symm.trans hdata'
  refine ⟨UInt16.toNat_inj.mp ?_, UInt8.toNat_inj.mp ?_, rfl⟩
  · exact Option.some.inj (hm.symm.trans hm')
  · exact Option.some.inj (hn.symm.trans hn')

/-! ### The gate in front of it -/

/-- The plugin runs for a device that is known and low enough. -/
def HasAccess (plugin : MessagePlugin) : Prop :=
  ∃ device, plugin.device = some device ∧ device ≤ 1024

theorem isAccessNode_iff (plugin : MessagePlugin) :
    isAccessNode plugin.device = true ↔ plugin.HasAccess := by
  unfold isAccessNode HasAccess
  cases plugin.device with
  | none => simp
  | some device =>
    show decide (device ≤ 1024) = true ↔ _
    rw [decide_eq_true_iff]
    simp

/-- Without access, every action is refused for that reason. -/
theorem command_of_not_hasAccess {plugin : MessagePlugin} (h : ¬ plugin.HasAccess)
    (action : String) (names values : List String) :
    plugin.command action names values = .error (.notAccessNode plugin.device) := by
  rw [← isAccessNode_iff] at h
  rw [command, if_pos h]

/-- With access, an action that is called `payload` is that action. -/
theorem command_of_hasAccess {plugin : MessagePlugin} (h : plugin.HasAccess) {action : String}
    (haction : Text.sameIgnoringAsciiCase action "payload" = true) (names values : List String) :
    plugin.command action names values = plugin.payload names values := by
  -- A name that is the same as this one is not the same as another.
  have hother : Text.sameIgnoringAsciiCase action "tosmsg" = false := by
    rw [← Text.asciiFolded_eq_iff] at haction
    rw [Bool.eq_false_iff]
    intro hsame
    rw [← Text.asciiFolded_eq_iff, haction] at hsame
    exact absurd hsame (by decide)
  have haccess := plugin.isAccessNode_iff.mpr h
  rw [command, if_neg (by rw [haccess]; decide), if_neg (by rw [hother]; decide), if_pos haction]

/-- Where the action `payload` may be used, there is a packet exactly when three
parameters say what is asked for and the data fits behind the length byte, and
the packet says exactly that when it is taken apart. Everything else is
answered with an error, and where no action may be used that is always the same
one, whatever the action is called and whatever its parameters are. -/
theorem command_payload (plugin : MessagePlugin) {action : String}
    (haction : Text.sameIgnoringAsciiCase action "payload" = true) (names values : List String) :
    ((∃ packet, plugin.command action names values = .ok (.packet packet)) ↔
      plugin.HasAccess ∧ ∃ destination type data,
        Asked names values destination type data ∧ data.length ≤ 255) ∧
    (∀ packet, plugin.command action names values = .ok (.packet packet) →
      ∀ destination type data, Asked names values destination type data →
        plugin.format.unwrap packet = .ok ⟨destination, plugin.format.group, type, data⟩) ∧
    ((∀ packet, plugin.command action names values ≠ .ok (.packet packet)) →
      ∃ error, plugin.command action names values = .error error) ∧
    (¬ plugin.HasAccess → ∀ action names values,
      plugin.command action names values = .error (.notAccessNode plugin.device)) := by
  by_cases haccess : plugin.HasAccess
  · rw [command_of_hasAccess haccess haction]
    simp only [payload_eq_ok_iff, Command.packet.injEq]
    refine ⟨⟨?_, ?_⟩, ?_, ?_, fun h => absurd haccess h⟩
    · rintro ⟨_, destination, type, data, packet, hasked, hwrap, rfl⟩
      obtain ⟨hle, -⟩ := (plugin.format.wrap_eq_ok_iff ..).mp hwrap
      exact ⟨haccess, destination, type, data, hasked, hle⟩
    · rintro ⟨-, destination, type, data, hasked, hle⟩
      exact ⟨_, destination, type, data, _, hasked,
        (plugin.format.wrap_eq_ok_iff ..).mpr ⟨hle, rfl⟩, rfl⟩
    · rintro _ ⟨_, _, _, packet, hbuilt, hwrap, rfl⟩ destination type data hasked
      obtain ⟨rfl, rfl, rfl⟩ := hbuilt.unique hasked
      have hunwrap := WireFormat.unwrap_append_of_wrap_eq_ok hwrap []
      rwa [List.append_nil] at hunwrap
    · -- The action makes a packet or fails, and nothing else.
      intro hnone
      cases hpayload : plugin.payload names values with
      | error error => exact ⟨error, rfl⟩
      | ok command =>
        obtain ⟨_, _, _, packet, -, -, rfl⟩ := (payload_eq_ok_iff ..).mp hpayload
        exact absurd hpayload (hnone packet)
  · rw [command_of_not_hasAccess haccess]
    refine ⟨⟨?_, fun h => absurd h.1 haccess⟩, ?_, fun _ => ⟨_, rfl⟩,
      command_of_not_hasAccess⟩
    · rintro ⟨_, h⟩
      cases h
    · intro _ h
      cases h

/-- A plugin that runs for the device with a number. -/
def relayFor (device : Int) : MessagePlugin where
  name := "relay"
  type := 0x88
  format := .legacy
  device := some device
  priority := 10

/-- Out of order, in other letters, with blanks and a sign: the packet says what
was asked for. One device further nothing is accepted. -/
theorem command_payload_relay :
    Text.sameIgnoringAsciiCase "PayLoad" "payload" = true ∧
    Asked ["Data", "AM_TYPE", "destination"] ["hi", " 17 ", "+513"] 513 17 [0x68, 0x69] ∧
    (∃ packet, (relayFor 1024).command "PayLoad" ["Data", "AM_TYPE", "destination"]
        ["hi", " 17 ", "+513"] = .ok (.packet packet) ∧
      WireFormat.legacy.unwrap packet = .ok ⟨513, some 0xFF, 17, [0x68, 0x69]⟩) ∧
    (relayFor 1025).command "reset" [] ["hi"] = .error (.notAccessNode (some 1025)) := by
  have haction : Text.sameIgnoringAsciiCase "PayLoad" "payload" = true := by decide
  have hasked : Asked ["Data", "AM_TYPE", "destination"] ["hi", " 17 ", "+513"] 513 17
      [0x68, 0x69] :=
    ⟨"+513", " 17 ", "hi", ⟨rfl, rfl, by decide⟩, by decide, by decide, by decide⟩
  obtain ⟨hsome, hsays, -, -⟩ := command_payload (relayFor 1024) haction
    ["Data", "AM_TYPE", "destination"] ["hi", " 17 ", "+513"]
  obtain ⟨-, -, -, hrefused⟩ := command_payload (relayFor 1025) haction [] []
  have haccess : (relayFor 1024).HasAccess := ⟨1024, rfl, by decide⟩
  have hnone : ¬ (relayFor 1025).HasAccess := by
    rintro ⟨device, hdevice, hle⟩
    obtain rfl : 1025 = device := Option.some.inj hdevice
    exact absurd hle (by decide)
  obtain ⟨packet, hpacket⟩ := hsome.mpr ⟨haccess, _, _, _, hasked, by decide⟩
  exact ⟨haction, hasked, ⟨packet, hpacket, hsays packet hpacket _ _ _ hasked⟩,
    hrefused hnone "reset" [] ["hi"]⟩

end Bus.MessagePlugin

end SensorGateway
