/-! Settings. -/
namespace Tabular

/-- Where the databases are, and the port on which connections are accepted. -/
structure Config where
  dataDir : String := "databases"
  port : UInt16 := 8888
  deriving DecidableEq, Repr

end Tabular
