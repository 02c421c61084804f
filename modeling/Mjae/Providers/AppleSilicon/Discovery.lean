import Mjae.Text.AsciiCase

/-!
# Discovering the GPU and ANE channels

The channel catalogue of the Energy Model group is walked once.  Null slots are passed
over, every other slot must have four readable fields, and the channels of the GPU and
the neural engine are kept, whatever the case of their names.
-/

namespace Mjae.Providers

open Mjae.Text

def energyModelGroup : String :=
  "Energy Model"

structure AppleEnergyChannel where
  group : String
  subgroup : String
  channelName : String
  unitLabel : String
  deriving DecidableEq

/-- What CoreFoundation answers about a string that is not null. -/
structure CFStringContent where
  maximumSize : Int64
  /-- The exported text, if the export succeeds. -/
  exported : Option String

/-- One entry of the catalogue; a field is `none` if its reference is null. -/
structure CatalogueChannel where
  group : Option CFStringContent
  subgroup : Option CFStringContent
  channelName : Option CFStringContent
  unitLabel : Option CFStringContent

/-- What IOReport and CoreFoundation answer while the channels are discovered. -/
structure ChannelCatalogue where
  /-- Allocation of the group name. -/
  groupName : Except String Unit
  /-- Whether the channel catalogue is there. -/
  copyChannels : Bool
  /-- Allocation of the key of the channel array. -/
  channelsKey : Except String Unit
  /-- The channel array, whose slots may be null. -/
  channels : Option (List (Option CatalogueChannel))

/-- The UTF-8 bytes of a text. -/
def bytesOf (text : String) : List UInt8 :=
  text.toUTF8.toList

/-- The channel array of a dictionary, once its key is allocated. -/
def cfDictionaryArray {α : Type} (key : Except String Unit) (value : Option α) :
    Except String α :=
  match key with
  | .error message => .error message
  | .ok () =>
      match value with
      | none => .error "IOReport dictionary is missing the IOReportChannels array"
      | some array => .ok array

def isGpuOrAneEnergyChannel (group subgroup channelName : String) : Bool :=
  if ¬ eqIgnoreAsciiCase (bytesOf group) (bytesOf energyModelGroup) then false
  else
    startsWithIgnoreAsciiCase (bytesOf channelName) (bytesOf "GPU") ||
      startsWithIgnoreAsciiCase (bytesOf channelName) (bytesOf "ANE") ||
      containsIgnoreAsciiCase (bytesOf subgroup) (bytesOf "GPU") ||
      containsIgnoreAsciiCase (bytesOf subgroup) (bytesOf "ANE")

def cfstringToString : Option CFStringContent → Except String String
  | none => .error "IOReport returned a null CFString field"
  | some value =>
      if value.maximumSize < 0 then
        .error "CoreFoundation returned an invalid UTF-8 buffer size"
      else
        match value.exported with
        | none => .error "CoreFoundation failed to export a UTF-8 string"
        | some text => .ok text

/-- The four fields, read in this order. -/
def CatalogueChannel.read (channel : CatalogueChannel) : Except String AppleEnergyChannel := do
  let group ← cfstringToString channel.group
  let subgroup ← cfstringToString channel.subgroup
  let channelName ← cfstringToString channel.channelName
  let unitLabel ← cfstringToString channel.unitLabel
  return { group, subgroup, channelName, unitLabel }

def AppleEnergyChannel.isGpuOrAne (channel : AppleEnergyChannel) : Bool :=
  isGpuOrAneEnergyChannel channel.group channel.subgroup channel.channelName

/-- The walk over the slots, with what was discovered so far. -/
def discoverChannels (discovered : List AppleEnergyChannel) :
    List (Option CatalogueChannel) → Except String (List AppleEnergyChannel)
  | [] => .ok discovered
  | none :: rest => discoverChannels discovered rest
  | some channel :: rest =>
      match channel.read with
      | .error message => .error message
      | .ok read =>
          discoverChannels (if read.isGpuOrAne then discovered ++ [read] else discovered) rest

def discoverGpuAneChannels (catalogue : ChannelCatalogue) :
    Except String (List AppleEnergyChannel) :=
  match catalogue.groupName with
  | .error message => .error message
  | .ok () =>
      if ¬ catalogue.copyChannels then
        .error "IOReport returned a null channel catalogue for the Energy Model group"
      else
        match cfDictionaryArray catalogue.channelsKey catalogue.channels with
        | .error message => .error message
        | .ok slots => discoverChannels [] slots

/-! ## Which channels are meant -/

/-- Up to ASCII case, the group is the Energy Model group, and the name of the channel
begins with that of an accelerator, or its subgroup contains one. -/
structure AppleEnergyChannel.MeansAccelerator (channel : AppleEnergyChannel) : Prop where
  group : lowered (bytesOf channel.group) = lowered (bytesOf energyModelGroup)
  named : ∃ accelerator ∈ ["GPU", "ANE"],
    lowered (bytesOf accelerator) <+: lowered (bytesOf channel.channelName) ∨
      lowered (bytesOf accelerator) <:+: lowered (bytesOf channel.subgroup)

theorem AppleEnergyChannel.isGpuOrAne_iff {channel : AppleEnergyChannel} :
    channel.isGpuOrAne ↔ channel.MeansAccelerator := by
  rw [isGpuOrAne, isGpuOrAneEnergyChannel]
  split
  · rename_i elsewhere
    constructor
    · exact fun outside => absurd outside Bool.false_ne_true
    · exact fun meant => absurd (eqIgnoreAsciiCase_iff.mpr meant.group) elsewhere
  · rename_i inGroup
    rw [not_not, eqIgnoreAsciiCase_iff] at inGroup
    simp only [Bool.or_eq_true, startsWithIgnoreAsciiCase_iff, containsIgnoreAsciiCase_iff]
    constructor
    · rintro (((named | named) | contained) | contained)
      · exact ⟨inGroup, "GPU", by simp, Or.inl named⟩
      · exact ⟨inGroup, "ANE", by simp, Or.inl named⟩
      · exact ⟨inGroup, "GPU", by simp, Or.inr contained⟩
      · exact ⟨inGroup, "ANE", by simp, Or.inr contained⟩
    · rintro ⟨-, accelerator, listed, meant⟩
      rcases List.mem_pair.mp listed with rfl | rfl
      · rcases meant with named | contained
        · exact Or.inl (Or.inl (Or.inl named))
        · exact Or.inl (Or.inr contained)
      · rcases meant with named | contained
        · exact Or.inl (Or.inl (Or.inr named))
        · exact Or.inr contained

instance (channel : AppleEnergyChannel) : Decidable channel.MeansAccelerator :=
  decidable_of_iff _ AppleEnergyChannel.isGpuOrAne_iff

theorem AppleEnergyChannel.isGpuOrAne_eq (channel : AppleEnergyChannel) :
    channel.isGpuOrAne = decide channel.MeansAccelerator := by
  rw [Bool.eq_iff_iff, isGpuOrAne_iff, decide_eq_true_iff]

/-! ## The walk -/

/-- Why a slot cannot be read; a null slot is passed over. -/
def unreadable : Option CatalogueChannel → Option String
  | none => none
  | some channel =>
      match channel.read with
      | .error message => some message
      | .ok _ => none

/-- The channels of the slots that are not null and can be read. -/
def readChannels (slots : List (Option CatalogueChannel)) : List AppleEnergyChannel :=
  slots.filterMap fun slot => slot.bind fun channel => channel.read.toOption

/-- The walk ends at the first slot that cannot be read, or keeps what is meant. -/
theorem discoverChannels_eq (discovered : List AppleEnergyChannel)
    (slots : List (Option CatalogueChannel)) :
    discoverChannels discovered slots =
      match slots.findSome? unreadable with
      | some message => .error message
      | none => .ok (discovered ++
          (readChannels slots).filter fun channel => channel.MeansAccelerator) := by
  induction slots generalizing discovered with
  | nil => simp [discoverChannels, readChannels]
  | cons slot rest ih =>
      cases slot with
      | none =>
          rw [discoverChannels, ih]
          rfl
      | some channel =>
          cases read_eq : channel.read with
          | error message => simp [discoverChannels, unreadable, read_eq]
          | ok read =>
              have channels_eq : readChannels (some channel :: rest) =
                  read :: readChannels rest := by
                simp [readChannels, read_eq, Except.toOption]
              have passed : unreadable (some channel) = none := by
                simp [unreadable, read_eq]
              rw [discoverChannels, read_eq, channels_eq, List.filter_cons,
                List.findSome?_cons, passed]
              dsimp only
              rw [ih, read.isGpuOrAne_eq]
              by_cases meant : read.MeansAccelerator
              · simp [meant]
              · simp [meant]

/-- Once the catalogue is there, discovery reports the accelerator channels of the Energy
Model group, in the order of the catalogue and whatever the case of their names, or the
error of the first slot that cannot be read. -/
theorem discoverGpuAneChannels_spec (slots : List (Option CatalogueChannel)) :
    (∀ channels, discoverGpuAneChannels ⟨.ok (), true, .ok (), some slots⟩ = .ok channels ↔
      (∀ slot ∈ slots, unreadable slot = none) ∧
        channels = (readChannels slots).filter fun channel => channel.MeansAccelerator) ∧
    ∀ message, discoverGpuAneChannels ⟨.ok (), true, .ok (), some slots⟩ = .error message ↔
      ∃ before slot after, slots = before ++ slot :: after ∧
        unreadable slot = some message ∧ ∀ earlier ∈ before, unreadable earlier = none := by
  have walked : discoverGpuAneChannels ⟨.ok (), true, .ok (), some slots⟩ =
      discoverChannels [] slots := rfl
  rw [walked, discoverChannels_eq]
  constructor
  · intro channels
    rw [← List.findSome?_eq_none_iff]
    cases slots.findSome? unreadable with
    | none => simp [eq_comm]
    | some failure => simp
  · intro message
    rw [← List.findSome?_eq_some_iff]
    cases slots.findSome? unreadable with
    | none => simp
    | some failure => simp

end Mjae.Providers
