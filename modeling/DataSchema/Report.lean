import DataSchema.Schema

/-!
# Reports on the documents of hosts

A schema is applied to the document of a host, and what is found is reported: conversion notes and
validation findings each at a level of their own, as log events. A finding at level `error` fails
the report, and a disabled pass is skipped.
-/

namespace DataSchema

/-- How findings of one kind are reported. -/
inductive Mode where
  | disabled | error | warning | info | debug
deriving DecidableEq, Repr

namespace Mode

def all : List Mode := [.disabled, .error, .warning, .info, .debug]

def name : Mode → String
  | .disabled => "disabled"
  | .error => "error"
  | .warning => "warning"
  | .info => "info"
  | .debug => "debug"

def ofName? (name : String) : Option Mode := all.find? (·.name == name)

/-- What is said about a name that is no mode. -/
def unknownName (name : String) : String :=
  s!"unknown mode '{name}', expected one of disabled, error, warning, info, debug"

def isEnabled (mode : Mode) : Bool := mode != .disabled

/-- The level of log events, if there are any. -/
def level? : Mode → Option String
  | .disabled => none
  | .error => some "ERROR"
  | .warning => some "WARN"
  | .info => some "INFO"
  | .debug => some "DEBUG"

end Mode

structure LogEvent where
  level : String
  host : String
  message : String
deriving DecidableEq

namespace Mode

def events (mode : Mode) (host : String) (messages : List String) : List LogEvent :=
  match mode.level? with
  | some level => messages.map fun message => ⟨level, host, message⟩
  | none => []

end Mode

/-- What was found in the document of a host. -/
structure Report where
  host : String
  conversions : List Note
  findings : List Finding
  /-- Something was reported at level `error`. -/
  failed : Bool

namespace Report

def blank (host : String) : Report := ⟨host, [], [], false⟩

/-- Without validation findings; failed conversions do not count. -/
def isClean (report : Report) : Bool := report.findings.isEmpty

def join (first second : Report) : Report :=
  ⟨first.host, first.conversions ++ second.conversions, first.findings ++ second.findings,
    first.failed || second.failed⟩

end Report

/-- A schema, a host and the modes of the two passes. -/
structure HostCheck where
  schema : Schema
  host : String
  conversionMode : Mode
  validationMode : Mode

namespace HostCheck

/-- Conversions are debug messages and findings are warnings when nothing else is said. -/
def new (schema : Schema) (host : String) : HostCheck := ⟨schema, host, .debug, .warning⟩

def convert (check : HostCheck) (data : Document) : Document × Report × List LogEvent :=
  if check.conversionMode.isEnabled then
    let (converted, notes) := check.schema.convert data
    let failed := check.conversionMode == .error && notes.any (·.attempt.isFailure)
    (converted, { Report.blank check.host with conversions := notes, failed := failed },
      check.conversionMode.events check.host (notes.map Note.text))
  else (data, Report.blank check.host, [])

def validate (check : HostCheck) (data : Document) : Report × List LogEvent :=
  if check.validationMode.isEnabled then
    let findings := check.schema.validate data
    let failed := check.validationMode == .error && !findings.isEmpty
    ({ Report.blank check.host with findings := findings, failed := failed },
      check.validationMode.events check.host (findings.map Finding.text))
  else (Report.blank check.host, [])

/-- Converts the data and validates the result. -/
def convertAndValidate (check : HostCheck) (data : Document) : Document × Report × List LogEvent :=
  let (converted, first, firstEvents) := check.convert data
  let (second, secondEvents) := check.validate converted
  (converted, first.join second, firstEvents ++ secondEvents)

end HostCheck

end DataSchema
