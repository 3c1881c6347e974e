import FolderTag.Rule.Violation

/-! # Rule options

What a host does when it applies a rule. Nothing here changes how a rule maps; the options are kept
for the host. -/

namespace FolderTag.Rule

open FolderTag.Document

/-- How a host resolves conflicts between rules. -/
inductive ConflictPolicy where
  | ask
  | resolve
  | skip
deriving Repr, DecidableEq

instance : Choice ConflictPolicy where
  title := "ConflictStrategy"
  all := [.ask, .resolve, .skip]
  name
    | .ask => "prompt"
    | .resolve => "auto-resolve"
    | .skip => "skip"

/-- Which of several tags a host prefers. -/
inductive TagDepth where
  | broader
  | narrower
deriving Repr, DecidableEq

instance : Choice TagDepth where
  title := "TagSpecificity"
  all := [.broader, .narrower]
  name
    | .broader => "broader"
    | .narrower => "narrower"

/-- The options of a rule. Switches are kept as they are stored; nothing stands for unset. -/
structure Options where
  createFolders : Value := .bool true
  addTags : Value := .bool true
  removeOrphanedTags : Value := .bool false
  syncOnFileCreate : Value := .bool true
  syncOnFileMove : Value := .bool true
  syncOnFileRename : Value := .bool true
  onConflict : Option ConflictPolicy := none
  tagSpecificity : Option TagDepth := none
  removeSourceTag : Value := .null
  keepDestinationTag : Value := .null
  keepRelationTags : Value := .null
  handleFolderNote : Value := .null
  moveAttachments : Value := .null

namespace Options

def fieldNames : List String := [
  "createFolders", "addTags", "removeOrphanedTags", "syncOnFileCreate", "syncOnFileMove",
  "syncOnFileRename", "onConflict", "tagSpecificity", "removeSourceTag", "keepDestinationTag",
  "keepRelationTags", "handleFolderNote", "moveAttachments"]

/-- The options of the entries of a mapping; what is missing has its default. -/
def ofEntries (entries : Entries) : Except Fault Options := do
  let field := fieldOr entries
  return {
    createFolders := field "createFolders" (.bool true)
    addTags := field "addTags" (.bool true)
    removeOrphanedTags := field "removeOrphanedTags" (.bool false)
    syncOnFileCreate := field "syncOnFileCreate" (.bool true)
    syncOnFileMove := field "syncOnFileMove" (.bool true)
    syncOnFileRename := field "syncOnFileRename" (.bool true)
    onConflict := ← readChoice ConflictPolicy (field "onConflict" .null)
    tagSpecificity := ← readChoice TagDepth (field "tagSpecificity" .null)
    removeSourceTag := field "removeSourceTag" .null
    keepDestinationTag := field "keepDestinationTag" .null
    keepRelationTags := field "keepRelationTags" .null
    handleFolderNote := field "handleFolderNote" .null
    moveAttachments := field "moveAttachments" .null }

/-- Reads options. Anything that is not set stands for no options at all. -/
def ofValue (v : Value) : Except Fault Options := do
  ofEntries (← knownFields "rule options" fieldNames (if v.isSet then v else .map []))

/-- The options that are not nothing. -/
def fields (o : Options) : List (String × Value) := setFields [
  ("createFolders", present? o.createFolders),
  ("addTags", present? o.addTags),
  ("removeOrphanedTags", present? o.removeOrphanedTags),
  ("syncOnFileCreate", present? o.syncOnFileCreate),
  ("syncOnFileMove", present? o.syncOnFileMove),
  ("syncOnFileRename", present? o.syncOnFileRename),
  ("onConflict", o.onConflict.map Choice.value),
  ("tagSpecificity", o.tagSpecificity.map Choice.value),
  ("removeSourceTag", present? o.removeSourceTag),
  ("keepDestinationTag", present? o.keepDestinationTag),
  ("keepRelationTags", present? o.keepRelationTags),
  ("handleFolderNote", present? o.handleFolderNote),
  ("moveAttachments", present? o.moveAttachments)]

def toValue (o : Options) : Value := Value.ofFields o.fields

end Options

end FolderTag.Rule
