import DriveBench.Table.Reading

/-!
# Recordings

A recording is a table under a title. A series is one column over time: one
value per sample, NaN where a sample has none.
-/

namespace DriveBench

structure Recording extends Table where
  title : String

namespace Recording

def length (r : Recording) : Nat := r.samples.length

def isEmpty (r : Recording) : Bool := r.samples.isEmpty

def hasColumn (r : Recording) (column : String) : Bool := r.columns.contains column

def series (r : Recording) (column : String) : List Float := r.samples.map (·.getD column)

@[simp] theorem length_series (r : Recording) (column : String) :
    (r.series column).length = r.length := by simp [series, length]

/-- The columns worth a panel. If any of the preferred ones is there, the
preferred ones that are, in the order of preference; if none is, the first
`count` columns other than time, in the order of the file. -/
def fieldsToPlot (r : Recording) (preferred : List String) (count : Nat) (timeColumn : String) :
    List String :=
  match preferred.filter r.hasColumn with
  | [] => (r.columns.filter (· != timeColumn)).take count
  | present => present

theorem hasColumn_of_mem_fieldsToPlot {r : Recording} {preferred : List String} {count : Nat}
    {timeColumn field : String} (h : field ∈ r.fieldsToPlot preferred count timeColumn) :
    r.hasColumn field = true := by
  unfold fieldsToPlot at h
  split at h
  · simpa [hasColumn] using (List.mem_filter.1 (List.mem_of_mem_take h)).1
  · rename_i heq
    exact (List.mem_filter.1 h).2

end Recording

end DriveBench
