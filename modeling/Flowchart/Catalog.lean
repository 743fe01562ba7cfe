import Flowchart.Format

/-!
# Catalogs

Formats in the order in which they were registered, each with the source that registered it. An id
occurs once, is not blank, and is the one that the scores of the format go by.
-/

namespace Flowchart

structure Entry (κ : Type) where
  format : Format κ
  source : Option Text

/-- A score has to be above the threshold to count. With fallback, other formats are tried where the
detected one fails. -/
structure Settings (κ : Type) where
  threshold : κ
  fallback : Bool := true

structure Catalog (κ : Type) where
  settings : Settings κ
  entries : List (Entry κ) := []

inductive RegisterFault where
  | blankId
  | otherScores (scoreId id : Text)
  | duplicate (id : Text) (owner : Option Text)
  deriving DecidableEq, Repr

namespace RegisterFault

def message : RegisterFault → Text
  | blankId => "Format ID must be a non-empty string".toList
  | otherScores scoreId id =>
    "Detector format ID '".toList ++ scoreId ++
      "' does not match implementation format ID '".toList ++ id ++ ['\'']
  | duplicate id owner =>
    let ending := match owner.filter (!·.isEmpty) with
      | some owner => " (already registered by ".toList ++ owner ++ [')']
      | none => []
    "Format '".toList ++ id ++ "' is already registered".toList ++ ending

end RegisterFault

namespace Entry

variable {κ : Type}

def id (entry : Entry κ) : Text := entry.format.id

end Entry

namespace Catalog

variable {κ : Type}

def ids (catalog : Catalog κ) : List Text := catalog.entries.map Entry.id

def has (catalog : Catalog κ) (id : Text) : Bool := catalog.ids.contains id

def entry? (catalog : Catalog κ) (id : Text) : Option (Entry κ) :=
  catalog.entries.find? (·.id == id)

def format? (catalog : Catalog κ) (id : Text) : Option (Format κ) :=
  (catalog.entry? id).map Entry.format

/-- The first rule that a format breaks, whatever is registered already. -/
def formatFault? (format : Format κ) : Option RegisterFault :=
  if (Text.trim format.id).isEmpty then some .blankId
  else
    match format.scoreId with
    | some scoreId => if scoreId = format.id then none else some (.otherScores scoreId format.id)
    | none => none

/-- Adds a format at the end. Where its source has registered the id before, nothing changes. -/
def register (catalog : Catalog κ) (format : Format κ) (source : Option Text) :
    Except RegisterFault (Catalog κ) :=
  match formatFault? format with
  | some fault => .error fault
  | none =>
    match catalog.entry? format.id with
    | none => .ok { catalog with entries := catalog.entries ++ [⟨format, source⟩] }
    | some known =>
      if known.source = source then .ok catalog else .error (.duplicate format.id known.source)

def unregister (catalog : Catalog κ) (id : Text) : Catalog κ :=
  { catalog with entries := catalog.entries.filter (·.id != id) }

end Catalog

end Flowchart
