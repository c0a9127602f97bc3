import DeviceBrowser.ClassIcons
import DeviceBrowser.Proofs.Table
import Mathlib.Algebra.GroupWithZero.Nat
import Mathlib.Data.List.Induction

/-! The numbers of icons stand for device classes one to one, from the icons' last clearing on: the
table of numbers and the list of classes stay inverse to each other. -/

namespace DeviceBrowser

/-- Identifiers that compare as equal are equal. -/
instance : Std.LawfulEqOrd Guid where
  compare_self := Std.compare_self (α := Nat)
  eq_of_compare {left right} tied := by
    obtain ⟨leftBits⟩ := left
    obtain ⟨rightBits⟩ := right
    exact congrArg Guid.mk (BitVec.eq_of_toNat_eq (Std.compare_eq_iff_eq.mp tied))

namespace ClassIcons

/-- What can be asked of the icons. -/
inductive Call where
  | iconFor (device : Device)
  | clear

/-- The number that was answered for a device. -/
structure Answer where
  device : Device
  number : UInt32

/-- The icons, with the answers given since they were last cleared. -/
structure Ledger where
  icons : ClassIcons
  answers : List Answer

namespace Ledger

/-- The ledger after a call. -/
def carryOut (ledger : Ledger) : Call → Ledger
  | .iconFor device =>
    ⟨(ledger.icons.iconFor device).2,
      ledger.answers ++ [⟨device, (ledger.icons.iconFor device).1⟩]⟩
  | .clear => ⟨none, []⟩

/-- The ledger that calls lead to from icons for no class. -/
def ofCalls (calls : List Call) : Ledger := calls.foldl carryOut ⟨none, []⟩

end Ledger

/-- The numbers that calls lead to stand for classes. Two devices since the last clearing have the
same number exactly if they have the same class or both have none, and the class that has the number
is the device's. A number keeps its class through calls that do not clear the icons. The numbers
that have a class, and those that were given apart from the generic one, are the numbers from one to
the number of classes. -/
structure NumbersClasses (calls : List Call) : Prop where
  same_iff : ∀ first ∈ (Ledger.ofCalls calls).answers, ∀ second ∈ (Ledger.ofCalls calls).answers,
    first.number = second.number ↔ first.device.classGuid = second.device.classGuid
  classOf?_eq : ∀ answer ∈ (Ledger.ofCalls calls).answers,
    (Ledger.ofCalls calls).icons.classOf? answer.number.toNat = answer.device.classGuid
  kept : ∀ later, Call.clear ∉ later → ∀ number cls,
    (Ledger.ofCalls calls).icons.classOf? number = some cls →
      (Ledger.ofCalls (calls ++ later)).icons.classOf? number = some cls
  isSome_iff : ∀ number, ((Ledger.ofCalls calls).icons.classOf? number).isSome = true ↔
    1 ≤ number ∧ number ≤ (Ledger.ofCalls calls).icons.size
  given_iff : ∀ number : UInt32,
    (number ≠ generic ∧ ∃ answer ∈ (Ledger.ofCalls calls).answers, answer.number = number) ↔
      1 ≤ number.toNat ∧ number.toNat ≤ (Ledger.ofCalls calls).icons.size

variable {icons : ClassIcons} {cls : Guid} {number : UInt32}

/-! ## One class more -/

/-- The numbers that have a class are those from one to the number of classes. -/
theorem isSome_classOf?_iff (icons : ClassIcons) (number : Nat) :
    (icons.classOf? number).isSome = true ↔ 1 ≤ number ∧ number ≤ icons.size := by
  -- Numbers are counted from one on and places from zero on; zero itself is the generic number.
  cases number with
  | zero => simp [classOf?]
  | succ slot =>
    have within : icons.classes[slot]?.isSome = true ↔ slot < icons.classes.length := by simp
    rw [classOf?, within, size]
    omega

/-- The number that comes next has no class yet. -/
theorem classOf?_size_succ (icons : ClassIcons) : icons.classOf? (icons.size + 1) = .none := by
  -- Its place is the one behind the last class.
  simp [classOf?, size]

/-- A class that is added has the number that comes next, and the others keep theirs. -/
theorem classOf?_add (icons : ClassIcons) (cls : Guid) (number : Nat) :
    (icons.add cls).2.classOf? number =
      if number = icons.size + 1 then some cls else icons.classOf? number := by
  -- The new class goes behind the others, and the generic number is no place.
  cases number with
  | zero => rfl
  | succ slot =>
    simp only [classOf?, add, size, Nat.add_right_cancel_iff]
    rw [List.getElem?_append]
    grind

/-- Under a class that is added the number that comes next is found, and under others what was. -/
theorem find?_add (icons : ClassIcons) (cls other : Guid) :
    (icons.add cls).2.numbers.find? other =
      if other = cls then some (.ofNat (icons.size + 1)) else icons.numbers.find? other := by
  -- The class is entered under the number of its place, counted from one on.
  have next : (icons.classes ++ [cls]).length = icons.size + 1 := List.length_append
  simp only [add, next]
  split
  · rename_i same
    rw [same, Table.find?_insert_self]
  · rename_i apart
    exact Table.find?_insert_ne _ apart _

@[simp] theorem size_add (icons : ClassIcons) (cls : Guid) :
    (icons.add cls).2.size = icons.size + 1 :=
  List.length_append

@[simp] theorem number_add (icons : ClassIcons) (cls : Guid) :
    (icons.add cls).1 = .ofNat (icons.size + 1) :=
  congrArg UInt32.ofNat List.length_append

/-! ## Numbers and classes -/

/-- The number that is known for a class, or for none. -/
def number? (icons : ClassIcons) : Option Guid → Option UInt32
  | .none => some generic
  | some cls => icons.numbers.find? cls

/-- A device either has a number already, and nothing changes, or brings in a new class. -/
theorem iconFor_cases (icons : ClassIcons) (device : Device) :
    (icons.number? device.classGuid = some (icons.iconFor device).1 ∧
      (icons.iconFor device).2 = icons) ∨
    ∃ cls, device.classGuid = some cls ∧ icons.numbers.find? cls = .none ∧
      icons.iconFor device = icons.add cls := by
  -- A device without a class has the generic number, and a class is looked up before it is added.
  cases found : device.classGuid with
  | none => exact .inl ⟨by simp [iconFor, found, number?], by simp [iconFor, found]⟩
  | some cls =>
    cases known : icons.numbers.find? cls with
    | some number =>
      exact .inl ⟨by simp [iconFor, found, known, number?], by simp [iconFor, found, known]⟩
    | none => exact .inr ⟨cls, rfl, known, by simp [iconFor, found, known]⟩

/-- The classes are those of the numbers, and the numbers those of the classes. -/
def Inverse (icons : ClassIcons) : Prop :=
  ∀ cls number, icons.numbers.find? cls = some number ↔ icons.classOf? number.toNat = some cls

theorem inverse_none : none.Inverse := by
  -- No class has a number yet.
  intro cls number
  cases number.toNat with
  | zero => simp [none, classOf?]
  | succ slot => simp [none, classOf?]

/-- A number that is known is that of its class, or the generic one. -/
theorem Inverse.classOf?_eq (inverse : icons.Inverse) {known : Option Guid}
    (found : icons.number? known = some number) : icons.classOf? number.toNat = known := by
  -- The generic number stands for no class, and any other one for the class it is found under.
  cases known with
  | none =>
    rw [← Option.some.inj found]
    rfl
  | some cls => exact (inverse cls number).mp found

/-- A new class keeps numbers and classes inverse, as long as its number fits into 32 bits. -/
theorem Inverse.add (inverse : icons.Inverse) (new : icons.numbers.find? cls = .none)
    (few : icons.size + 1 < 2 ^ 32) : (icons.add cls).2.Inverse := by
  have fits : (UInt32.ofNat (icons.size + 1)).toNat = icons.size + 1 := UInt32.toNat_ofNat_of_lt few
  intro other number
  rw [find?_add, classOf?_add]
  by_cases last : number.toNat = icons.size + 1
  · -- The number is the next one, which no other class has.
    have next : UInt32.ofNat (icons.size + 1) = number := UInt32.toNat_inj.mp (fits.trans last.symm)
    have unused : icons.numbers.find? other ≠ some number := by
      rw [Ne, inverse, last, classOf?_size_succ]
      simp
    by_cases same : other = cls
    · simp [last, same, next]
    · simpa [last, same, Ne.symm same] using unused
  · have apart : UInt32.ofNat (icons.size + 1) ≠ number := by
      rintro rfl
      exact last fits
    rw [if_neg last, ← inverse]
    by_cases same : other = cls
    · rw [if_pos same, same, new]
      simpa using apart
    · rw [if_neg same]

/-- A number that is known is still known when a class is new. -/
theorem number?_add (new : icons.numbers.find? cls = .none) {known : Option Guid}
    (found : icons.number? known = some number) :
    (icons.add cls).2.number? known = some number := by
  -- The class that is known is not the new one, since that was not found.
  cases known with
  | none => exact found
  | some other =>
    have apart : other ≠ cls := by
      rintro rfl
      rw [number?, new] at found
      cases found
    rw [number?, find?_add, if_neg apart]
    exact found

/-- A number keeps its class when the icon of a device is asked for. -/
theorem classOf?_iconFor {position : Nat} (given : icons.classOf? position = some cls)
    (device : Device) : (icons.iconFor device).2.classOf? position = some cls := by
  rcases icons.iconFor_cases device with ⟨_, same⟩ | ⟨added, _, _, grown⟩
  · rw [same, given]
  · -- The number that comes next had no class, so it is another one.
    have apart : position ≠ icons.size + 1 := by
      rintro rfl
      rw [classOf?_size_succ] at given
      cases given
    rw [grown, classOf?_add, if_neg apart, given]

/-- There are no fewer classes once the icon of a device is asked for. -/
theorem size_le_iconFor (icons : ClassIcons) (device : Device) :
    icons.size ≤ (icons.iconFor device).2.size := by
  -- A class is added or nothing changes.
  rcases icons.iconFor_cases device with ⟨_, same⟩ | ⟨cls, _, _, grown⟩
  · exact Nat.le_of_eq (congrArg size same).symm
  · rw [grown, size_add]
    exact Nat.le_succ _

/-! ## Any calls -/

namespace Ledger

variable {ledger : Ledger}

/-- The answers of a ledger are in accord with its icons: the icons know the number of every answer,
and every number that has a class was given. -/
structure Sound (ledger : Ledger) : Prop where
  inverse : ledger.icons.Inverse
  known : ∀ answer ∈ ledger.answers,
    ledger.icons.number? answer.device.classGuid = some answer.number
  given : ∀ number : UInt32, 1 ≤ number.toNat → number.toNat ≤ ledger.icons.size →
    ∃ answer ∈ ledger.answers, answer.number = number

theorem sound_start : Sound ⟨none, []⟩ where
  inverse := inverse_none
  known := by simp
  given number least most := absurd (Nat.le_trans least most) (by decide)

/-- The class that has the number of an answer is the device's. -/
theorem Sound.classOf?_eq (sound : ledger.Sound) {answer : Answer}
    (member : answer ∈ ledger.answers) :
    ledger.icons.classOf? answer.number.toNat = answer.device.classGuid :=
  -- The answers are known still, and known numbers lead back to their classes.
  sound.inverse.classOf?_eq (sound.known answer member)

/-- Two devices were given the same number exactly if they have the same class or both have none. -/
theorem Sound.same_iff (sound : ledger.Sound) {first second : Answer}
    (firstIn : first ∈ ledger.answers) (secondIn : second ∈ ledger.answers) :
    first.number = second.number ↔ first.device.classGuid = second.device.classGuid := by
  constructor
  · -- The number leads back to the class of each.
    intro same
    rw [← sound.classOf?_eq firstIn, ← sound.classOf?_eq secondIn, same]
  · intro same
    have known := sound.known first firstIn
    rw [same, sound.known second secondIn] at known
    exact (Option.some.inj known).symm

/-- The numbers that were given, apart from the generic one, are those from one to the number of
classes. -/
theorem Sound.given_iff (sound : ledger.Sound) (number : UInt32) :
    (number ≠ generic ∧ ∃ answer ∈ ledger.answers, answer.number = number) ↔
      1 ≤ number.toNat ∧ number.toNat ≤ ledger.icons.size := by
  constructor
  · rintro ⟨special, answer, member, rfl⟩
    -- Only devices without a class have the generic number, so that the number has a class.
    rw [← isSome_classOf?_iff, sound.classOf?_eq member, Option.isSome_iff_ne_none]
    intro classless
    have known := sound.known answer member
    rw [classless] at known
    exact special (Option.some.inj known).symm
  · rintro ⟨least, most⟩
    refine ⟨?_, sound.given number least most⟩
    rintro rfl
    exact absurd least (by decide)

/-- Another answer that is known leaves the answers in accord. -/
theorem Sound.again (sound : ledger.Sound) {device : Device} {number : UInt32}
    (known : ledger.icons.number? device.classGuid = some number) :
    Sound ⟨ledger.icons, ledger.answers ++ [⟨device, number⟩]⟩ where
  -- The icons stay as they are, and the new answer is known to them.
  inverse := sound.inverse
  known := List.forall_mem_append.mpr ⟨sound.known, List.forall_mem_singleton.mpr known⟩
  given number least most := by
    obtain ⟨answer, member, same⟩ := sound.given number least most
    exact ⟨answer, List.mem_append_left _ member, same⟩

/-- The answer for a new class leaves the answers in accord, as long as its number fits into 32
bits. -/
theorem Sound.add (sound : ledger.Sound) {device : Device} {cls : Guid}
    (found : device.classGuid = some cls) (new : ledger.icons.numbers.find? cls = .none)
    (few : ledger.icons.size + 1 < 2 ^ 32) :
    Sound ⟨(ledger.icons.add cls).2,
      ledger.answers ++ [⟨device, (ledger.icons.add cls).1⟩]⟩ where
  inverse := sound.inverse.add new few
  known := by
    refine List.forall_mem_append.mpr ⟨?_, List.forall_mem_singleton.mpr ?_⟩
    · intro answer member
      exact number?_add new (sound.known answer member)
    · rw [found, number?, find?_add, if_pos rfl, number_add]
  given number least most := by
    rw [size_add] at most
    by_cases last : number.toNat = ledger.icons.size + 1
    · -- The number that comes next is the answer.
      refine ⟨_, List.mem_append_right _ List.mem_cons_self, UInt32.toNat_inj.mp ?_⟩
      rw [number_add, last]
      exact UInt32.toNat_ofNat_of_lt few
    · obtain ⟨answer, member, same⟩ := sound.given number least (by omega)
      exact ⟨answer, List.mem_append_left _ member, same⟩

/-- Asking for an icon leaves the answers in accord, as long as the numbers fit into 32 bits. -/
theorem Sound.iconFor (sound : ledger.Sound) {device : Device}
    (few : (ledger.carryOut (.iconFor device)).icons.size < 2 ^ 32) :
    (ledger.carryOut (.iconFor device)).Sound := by
  -- Only a new class can use up a number.
  rw [Ledger.carryOut] at few ⊢
  rcases ledger.icons.iconFor_cases device with ⟨known, same⟩ | ⟨cls, found, new, grown⟩
  · rw [same]
    exact sound.again known
  · rw [grown] at few ⊢
    rw [size_add] at few
    exact sound.add found new few

@[simp] theorem ofCalls_append_singleton (calls : List Call) (call : Call) :
    ofCalls (calls ++ [call]) = (ofCalls calls).carryOut call := by
  -- Calls are carried out from the front to the end.
  simp [ofCalls]

/-- The answers are in accord with the icons after any calls that leave so few classes that their
numbers fit into 32 bits. -/
theorem sound_ofCalls {calls : List Call} (few : (ofCalls calls).icons.size < 2 ^ 32) :
    (ofCalls calls).Sound := by
  -- By induction on the calls from the last one back. There were no more classes before a request,
  -- and clearing starts anew.
  induction calls using List.reverseRecOn with
  | nil => exact sound_start
  | append_singleton calls call ih =>
    rw [ofCalls_append_singleton] at few ⊢
    cases call with
    | iconFor device =>
      exact (ih (Nat.lt_of_le_of_lt (size_le_iconFor _ device) few)).iconFor few
    | clear => exact sound_start

/-- A number keeps its class through calls that do not clear the icons. -/
theorem classOf?_append {calls later : List Call} (uncleared : .clear ∉ later) {position : Nat}
    {cls : Guid} (given : (ofCalls calls).icons.classOf? position = some cls) :
    (ofCalls (calls ++ later)).icons.classOf? position = some cls := by
  -- By induction on the later calls; a request adds a class behind the others, and clearing is
  -- ruled out.
  induction later using List.reverseRecOn with
  | nil => simpa using given
  | append_singleton later call ih =>
    rw [List.mem_append, not_or] at uncleared
    rw [← List.append_assoc, ofCalls_append_singleton]
    cases call with
    | iconFor device => exact classOf?_iconFor (ih uncleared.1) device
    | clear => exact absurd List.mem_cons_self uncleared.2

end Ledger

/-- The numbers that calls lead to stand for classes one to one, as long as there are so few classes
that the numbers fit into 32 bits. -/
theorem numbersClasses_ofCalls (calls : List Call)
    (few : (Ledger.ofCalls calls).icons.size < 2 ^ 32) : NumbersClasses calls := by
  have sound := Ledger.sound_ofCalls few
  -- The ledger is sound after the calls, and the clauses speak of its answers and of the classes of
  -- its numbers.
  constructor
  · intro first firstIn second secondIn
    exact sound.same_iff firstIn secondIn
  · intro answer member
    exact sound.classOf?_eq member
  · intro later uncleared number cls given
    exact Ledger.classOf?_append uncleared given
  · exact isSome_classOf?_iff _
  · exact sound.given_iff

/-- Calls for two classes and for none, before and after the icons are cleared. -/
def callsTwice : List Call :=
  let hub := (Device.ofId "HUB" false).set .classGuid
    (.guid ⟨0x36fc9e60c46511cf8056444553540000#128⟩)
  let mouse := (Device.ofId "MOUSE" false).set .classGuid
    (.guid ⟨0x745a17a074d311d0b6fe00a0c90f57da#128⟩)
  [.iconFor hub, .iconFor mouse, .clear, .iconFor mouse, .iconFor (.ofId "PC" false), .iconFor hub,
    .iconFor mouse]

theorem numbersClasses_callsTwice :
    (Ledger.ofCalls callsTwice).icons.size < 2 ^ 32 ∧ NumbersClasses callsTwice ∧
      (Ledger.ofCalls callsTwice).answers.map (·.number) = [1, 0, 2, 1] := by
  -- After the icons are cleared, the second class has the first number.
  have few : (Ledger.ofCalls callsTwice).icons.size < 2 ^ 32 := by decide
  exact ⟨few, numbersClasses_ofCalls callsTwice few, by decide⟩

end ClassIcons

end DeviceBrowser
