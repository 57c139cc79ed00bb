import PayGraph.Number.Basic
import PayGraph.Text.Quoted

/-!
# Metrics

The measures of a class that a host collects.  Variables may name others too; an input map that
lacks a name counts it as zero.
-/

namespace PayGraph

/-- A measure of a class. -/
inductive Metric where
  | reservations
  | waitlist
  | complimentary
  | capacity
  | paidReservations
  | spots
  deriving DecidableEq, Repr

/-- Values of metrics by name. -/
abbrev Inputs := List (String × Number)

namespace Inputs

/-- Value of a metric, zero if it is absent. -/
def valueOf (inputs : Inputs) (name : String) : Number :=
  (inputs.lookup name).getD .zero

/-- Give a name a value, in its old place if it has one and last otherwise. -/
def insert (inputs : Inputs) (name : String) (value : Number) : Inputs :=
  if inputs.any (fun entry => entry.1 = name) then
    inputs.map fun entry => if entry.1 = name then (name, value) else entry
  else inputs ++ [(name, value)]

/-- Give every name of a second map its value there. -/
def override (inputs changes : Inputs) : Inputs :=
  changes.foldl (fun merged change => merged.insert change.1 change.2) inputs

end Inputs

namespace Metric

/-- Every metric, in the order of the enumeration. -/
def all : List Metric :=
  [.reservations, .waitlist, .complimentary, .capacity, .paidReservations, .spots]

/-- Name of the metric in input maps. -/
def word : Metric → String
  | .reservations => "reservaciones"
  | .waitlist => "listaEspera"
  | .complimentary => "cortesias"
  | .capacity => "capacidad"
  | .paidReservations => "reservasPagadas"
  | .spots => "lugares"

/-- Identifier of the metric. -/
def identifier : Metric → String
  | .reservations => "RESERVATIONS"
  | .waitlist => "WAITLIST"
  | .complimentary => "COMPLIMENTARY"
  | .capacity => "CAPACITY"
  | .paidReservations => "PAID_RESERVATIONS"
  | .spots => "SPOTS"

/-- What the metric counts. -/
def description : Metric → String
  | .reservations => "Total reservations for the class."
  | .waitlist => "People left on the waiting list."
  | .complimentary => "Complimentary seats handed out."
  | .capacity => "Room capacity."
  | .paidReservations => "Reservations that were paid for."
  | .spots => "Spots offered for the class."

/-- Value of the metric in the sample data. -/
def sample : Metric → Number
  | .reservations => .integer 30
  | .waitlist => .integer 5
  | .complimentary => .integer 2
  | .capacity => .integer 50
  | .paidReservations => .integer 28
  | .spots => .integer 20

/-- The metric with a name. -/
def ofWord? (word : String) : Option Metric :=
  all.find? fun metric => metric.word = word

/-- Complaint about a name that no metric has. -/
def unknownWord (word : String) : String :=
  s!"{quoted word} is not a valid Metric"

/-- Sample data to try a formula on. -/
def sampleInputs : Inputs :=
  all.map fun metric => (metric.word, metric.sample)

end Metric
end PayGraph
