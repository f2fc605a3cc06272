import RegistrySchema.Identifier

/-!
# Block kinds and their properties

A block kind has a list of named properties, and each property a domain: the values that it
can take.
-/

namespace RegistrySchema

/-- One constant of an enumerated domain. -/
structure EnumValue where
  /-- The constant's own name. -/
  name : String
  /-- The form that the constant is saved in, if it has one. -/
  serialized : Option String
  deriving DecidableEq, Inhabited, Repr

/-- What a report shows of a constant: its serialized form, or else its name. -/
def EnumValue.label (value : EnumValue) : String := value.serialized.getD value.name

/-- An ordered list of constants, with what is needed to name it. -/
structure EnumDomain where
  /-- Identity of a domain that several blocks share. -/
  key : Option String
  /-- Simple name of the constants' type. -/
  category : String
  /-- The constants in declaration order. -/
  values : List EnumValue
  deriving DecidableEq, Inhabited, Repr

/-- The labels in declaration order. -/
def EnumDomain.labels (domain : EnumDomain) : List String := domain.values.map EnumValue.label

/-- The values that a property can take. -/
inductive Domain where
  /-- The integers from `lo` to `hi`. -/
  | intRange (lo hi : Int)
  /-- The two truth values. -/
  | boolean
  /-- One of a list of constants. -/
  | enumeration (domain : EnumDomain)
  /-- A kind of domain without a rule. -/
  | unclassified (kind : String)
  deriving DecidableEq, Inhabited, Repr

/-- A named property. -/
structure Property where
  /-- The property's name, unique within its block kind. -/
  name : String
  /-- The values that it can take. -/
  domain : Domain
  deriving DecidableEq, Inhabited, Repr

/-- A block kind with its properties in declared order. -/
structure BlockKind where
  /-- The kind's identifier. -/
  id : Identifier
  /-- Its properties. -/
  properties : List Property
  deriving DecidableEq, Inhabited, Repr

end RegistrySchema
