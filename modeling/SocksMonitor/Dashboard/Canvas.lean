/-!
# Text on a screen

A screen is a list of rows, and a row has one character for every column. Text is cut to the width
that it gets and filled up with spaces, and so are the rows of a block. The main statements say that
each function gives what its name promises: rows of the width, blocks of the height.
-/

namespace SocksMonitor.Dashboard

abbrev Row := List Char

/-- Text in exactly so many columns. -/
def fit (width : Nat) (text : Row) : Row :=
  text.take width ++ List.replicate (width - text.length) ' '

theorem length_fit (width : Nat) (text : Row) : (fit width text).length = width := by
  simp only [fit, List.length_append, List.length_take, List.length_replicate]
  omega

/-- Rows of exactly the given width and number. -/
def fitRows (width height : Nat) (rows : List Row) : List Row :=
  (rows.take height).map (fit width) ++ List.replicate (height - rows.length) (fit width [])

theorem length_fitRows (width height : Nat) (rows : List Row) :
    (fitRows width height rows).length = height := by
  simp only [fitRows, List.length_append, List.length_map, List.length_take, List.length_replicate]
  omega

theorem length_of_mem_fitRows {width height : Nat} {rows : List Row} {row : Row}
    (h : row ∈ fitRows width height rows) : row.length = width := by
  rcases List.mem_append.1 h with h | h
  · obtain ⟨text, -, rfl⟩ := List.mem_map.1 h
    exact length_fit width text
  · rw [(List.mem_replicate.1 h).2]
    exact length_fit width []

/-- The upper border with the title behind its corner. -/
def topBorder (width : Nat) (title : Row) : Row :=
  let title := title.take (width - 2)
  fit width ('┌' :: title ++ List.replicate (width - 2 - title.length) '─' ++ ['┐'])

def bottomBorder (width : Nat) : Row :=
  fit width ('└' :: List.replicate (width - 2) '─' ++ ['┘'])

def sideBorders (width : Nat) (text : Row) : Row :=
  fit width ('│' :: fit (width - 2) text ++ ['│'])

/-- A block with a border around it, cut to its height. -/
def block (width height : Nat) (title : Row) (rows : List Row) : List Row :=
  let inside := (fitRows (width - 2) (height - 2) rows).map (sideBorders width)
  fitRows width height (topBorder width title :: inside ++ [bottomBorder width])

end SocksMonitor.Dashboard
