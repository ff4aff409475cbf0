import MarketQuery.Filters.Check
import MarketQuery.Sql.Fragment

namespace MarketQuery.Query

open Sql (Fragment Param)

/-- A condition that is only there if a request constrains its dimension. -/
structure Condition (F : Type) where
  dimension : String
  build : F → Option Fragment

def separator : String := "\n\tAND "

namespace Condition

def flag (holds : Bool) (text : String) : Option Fragment :=
  if holds then some (.text text) else none

def value (before : String) (after : String) (v : Option Param) : Option Fragment :=
  v.map fun p => .text before ++ .bind p ++ .text after

def values (before : String) (vs : List String) : Option Fragment :=
  if vs.isEmpty then none else some (.text before ++ .bind (.textArray vs) ++ .text ")")

def twice (before between after : String) (v : Option Param) : Option Fragment :=
  v.map fun p => .text before ++ .bind p ++ .text between ++ .bind p ++ .text after

/-- The conditions of a table that a request calls for, each with its dimension. -/
def present (table : List (Condition F)) (f : F) : List (String × Fragment) :=
  table.filterMap fun c => (c.build f).map (c.dimension, ·)

end Condition

def smartWearableType : String := "'smart_wearable_v1'"

def emoteType : String := "'emote_v1'"

/-- All types of wearables, smart ones included. -/
def wearableTypes : String := "('wearable_v1', 'wearable_v2', 'smart_wearable_v1')"

end MarketQuery.Query
