/-!
# Documents

## Main Definitions

* `Document` — a document as it is given to an index
-/

namespace RankedRetrieval

/-- A document as it is given to an index: texts of fields and stored attributes. -/
structure Document where
  /-- The name of the document outside the index. -/
  externalId : String
  /-- The texts of its fields, each field once. -/
  fields : List (String × String)
  /-- Its attributes; of two with one name the later one counts. -/
  attributes : List (String × String)

namespace Document

/-- A document without fields and attributes. -/
def named (externalId : String) : Document := ⟨externalId, [], []⟩

/-- A document with a text for a field, which replaces an earlier text of that field. -/
def withField (d : Document) (name text : String) : Document :=
  { d with fields := d.fields.filter (fun entry => entry.1 ≠ name) ++ [(name, text)] }

/-- A document with one more attribute. -/
def withAttribute (d : Document) (name value : String) : Document :=
  { d with attributes := d.attributes ++ [(name, value)] }

end Document

end RankedRetrieval
