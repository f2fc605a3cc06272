import RegistrySchema.Report.Record
import RegistrySchema.Text.Split

/-!
# Writing reports

A report is written as four groups of lines with an empty line between them:

```text
BLOCKINFO --- <block> - <property>:<tag> <property>:<tag> ...
ENUMINFO --- <enum> - <value>,<value>,...
ENTITYINFO --- <entity> - <class>
ENTITYCLASSINFO --- <class> - <ancestor>,<ancestor>,...
```

Every pair of a block line is followed by a space. An entity without a class has nothing after
its name.
-/

namespace RegistrySchema

/-- What a report is about: the block records, the enum types, the entity records and the
classes. -/
structure Schema where
  /-- The block records. -/
  blocks : List BlockRecord
  /-- The enum types. -/
  enums : EnumTable
  /-- The entity records. -/
  entities : List EntityRecord
  /-- The classes. -/
  classes : ClassTable

namespace Report

/-- What stands between a tag and a name. -/
def tagSeparator : List Char := " --- ".toList

/-- What stands between a name and its payload. -/
def nameSeparator : List Char := " - ".toList

/-- What stands between the items of a list. -/
def listSeparator : Char := ','

/-- What stands between a property and its tag. -/
def propertySeparator : Char := ':'

/-- The head of a line: tag, separator and name. -/
def lineHead (s : Section) (name : String) : List Char :=
  s.tag.toList ++ tagSeparator ++ name.toList

/-- A property and its tag, followed by a space. -/
def pairText (pair : String × TypeTag) : List Char :=
  pair.1.toList ++ propertySeparator :: pair.2.text.toList ++ [' ']

/-- The items with commas between them. -/
def listText (items : List String) : List Char :=
  Text.joined [listSeparator] (items.map String.toList)

/-- The line of a block. -/
def blockLine (record : BlockRecord) : List Char :=
  lineHead .blocks record.name ++ nameSeparator ++ record.properties.flatMap pairText

/-- The line of an enum type. -/
def enumLine (record : EnumRecord) : List Char :=
  lineHead .enums record.name ++ nameSeparator ++ listText record.values

/-- The line of an entity. -/
def entityLine (record : EntityRecord) : List Char :=
  lineHead .entities record.name ++
    match record.source with
    | none => []
    | some source => nameSeparator ++ source.text.toList

/-- The line of a class. -/
def classLine (record : ClassRecord) : List Char :=
  lineHead .classes record.source.text ++ nameSeparator
    ++ listText (record.ancestors.map SourcePath.text)

/-- Lines, each ended by a line feed. -/
def linesText (lines : List (List Char)) : List Char := lines.flatMap (· ++ ['\n'])

end Report

namespace Schema

/-- The enum records in table order. -/
def enumRecords (schema : Schema) : List EnumRecord :=
  schema.enums.entries.map fun entry => ⟨entry.1, entry.2⟩

/-- The class records in table order. -/
def classRecords (schema : Schema) : List ClassRecord :=
  schema.classes.entries.map fun entry => ⟨entry.1, entry.2⟩

/-- The characters of the report. -/
def reportChars (schema : Schema) : List Char :=
  Report.linesText (schema.blocks.map Report.blockLine) ++ '\n' ::
    Report.linesText (schema.enumRecords.map Report.enumLine) ++ '\n' ::
      Report.linesText (schema.entities.map Report.entityLine) ++ '\n' ::
        Report.linesText (schema.classRecords.map Report.classLine)

/-- The report. -/
def reportText (schema : Schema) : String := String.ofList schema.reportChars

end Schema

end RegistrySchema
