import DeviceBrowser.Inventory.Source

/-! A source never hands out an edition that comes before one it handed out earlier, and a new
inventory always comes with a new number. -/

namespace DeviceBrowser

namespace Edition

/-- An edition is another one or was handed out before it. -/
def UpTo (edition later : Edition) : Prop := edition = later ∨ edition.number < later.number

/-- Every edition comes up to itself. -/
theorem UpTo.refl (edition : Edition) : edition.UpTo edition := .inl rfl

/-- Coming up to an edition carries on. -/
theorem UpTo.trans {first second third : Edition} (before : first.UpTo second)
    (after : second.UpTo third) : first.UpTo third := by
  -- Equal editions give way to each other, and two steps forward add up.
  rcases before with rfl | less
  · exact after
  · rcases after with rfl | further
    · exact .inr less
    · exact .inr (Nat.lt_trans less further)

/-- Between two editions of the same number there is no other. -/
theorem UpTo.eq_of_isSame {first second third : Edition} (before : first.UpTo second)
    (after : second.UpTo third) (same : first.isSame third = true) : second = third := by
  -- Were the second handed out before the third, its number would lie between two equal ones.
  have equal : first.number = third.number := by simpa [isSame] using same
  rcases after with rfl | further
  · rfl
  · rcases before with rfl | less
    · omega
    · omega

/-- An edition is succeeded by a later one. -/
theorem upTo_succeededBy (edition : Edition) (inventory : Inventory) :
    edition.UpTo (edition.succeededBy inventory) :=
  .inr (Nat.lt_succ_self edition.number)

end Edition

/-- Renewing an edition keeps it or hands out a later one. -/
theorem DumpReader.upTo_renew (edition : Edition) (loaded : Except Fault Inventory) :
    edition.UpTo (DumpReader.renew edition loaded) := by
  -- Only a failure over an empty inventory keeps the edition; everything else counts on.
  cases loaded with
  | ok inventory => exact edition.upTo_succeededBy inventory
  | error fault =>
    rw [DumpReader.renew]
    split
    · exact .refl edition
    · exact edition.upTo_succeededBy .empty

namespace Source

/-- The edition that a source handed out last, or starts from. -/
def edition : Source → Edition
  | fixed edition => edition
  | dump _ reader => reader.edition

/-- A source remembers the edition it hands out. -/
theorem edition_take (source : Source) (force : Bool) :
    (source.take force).2.edition = (source.take force).1 := by
  -- A dump is either read anew or handed out as it was.
  cases source with
  | fixed edition => rfl
  | dump file reader =>
    simp only [take, DumpReader.take, edition]
    split <;> rfl

/-- What a source hands out does not come before what it handed out last. -/
theorem upTo_take (source : Source) (force : Bool) :
    source.edition.UpTo (source.take force).1 := by
  -- A fixed source hands out what it holds, and a reader keeps its edition or renews it.
  cases source with
  | fixed edition => exact .refl edition
  | dump file reader =>
    simp only [take, DumpReader.take, edition]
    split
    · exact .refl reader.edition
    · exact DumpReader.upTo_renew reader.edition file.load

/-- Another inventory comes as a later edition. -/
theorem upTo_replace (source : Source) (inventory : Inventory) :
    source.edition.UpTo (source.replace inventory).edition := by
  -- A source that reads a file is not replaced by hand.
  cases source with
  | fixed edition => exact edition.upTo_succeededBy inventory
  | dump file reader => exact .refl reader.edition

/-- Another file is not read before the source is asked. -/
@[simp] theorem edition_withFile (source : Source) (file : DumpFile) :
    (source.withFile file).edition = source.edition := by
  -- The file is no part of the edition, which was read earlier.
  cases source <;> rfl

end Source

end DeviceBrowser
