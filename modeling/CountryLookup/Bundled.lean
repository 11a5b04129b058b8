import CountryLookup.Database.Layout

/-!
# The bundled database

The program carries a small database for the case that no other can be opened. It covers two
networks that are set aside for documentation: one with a country, the other with nothing but a
continent, so that both ways to a code can be tried without any file.
-/

namespace CountryLookup.Bundled

open Database

/-- The networks of the bundled database: the leading octets and the fields of the record. -/
def networks : List (List UInt8 × List (RecordField × String)) :=
  [ ([203, 0, 113],
      [(.country, "JP"), (.countryName, "Japan"), (.continent, "AS"), (.continentName, "Asia")]),
    ([198, 51, 100],
      [(.country, ""), (.countryName, ""), (.continent, "EU"), (.continentName, "Europe")]) ]

/-- The search tree and the data, built by adding one network after the other. -/
def contents : Trie × List UInt8 :=
  networks.foldl
    (fun (tree, data) (octets, fields) =>
      (tree.insert data.length (octets.flatMap Address.octetBits),
        data ++ (recordValue fields).encode))
    (.empty, [])

/-- The metadata. The database has no name. -/
def metadata : Metadata where
  majorVersion := 2
  minorVersion := 0
  buildEpoch := 0
  databaseType := ""
  description := []
  ipVersion := 4
  languages := []
  nodeCount := contents.1.size
  recordSize := 24

/-- The bytes of the database. -/
def bytes : Bytes :=
  (image metadata (contents.1.rows contents.1.size 0) contents.2).toArray

end CountryLookup.Bundled
