import FederatedSearch.Index.Record

/-!
# The built-in dataset

A small dataset with two backends, for trying the engine out. It is used when the configuration
names no dataset.
-/

namespace FederatedSearch.Demo

/-- An image of a collection, with its fields by name and value. -/
def image (id collection : Nat) (values : List (String × String)) : Record where
  id
  collection
  type := "image"
  kind := .record
  status := 0
  fields := values.map fun (name, value) => ⟨name, value⟩

/-- The description of the backend of photos. -/
def photosBackend : Backend where
  id := 1
  name := "photos"
  collections := [⟨10, "Press"⟩, ⟨11, "Archives"⟩]
  fields :=
    [{ name := "Title" },
      { name := "Keywords" },
      { name := "Caption" },
      { name := "ShotDate", kind := .date },
      { name := "Width", kind := .number },
      { name := "Rights", business := true }]

/-- The thesaurus of photos. -/
def photosThesaurus : Thesaurus where
  concepts :=
    [⟨"sea", ["ocean"], ["beach", "harbour"], 3⟩,
      ⟨"beach", ["shore"], [], 2⟩,
      ⟨"mountain", ["peak"], ["glacier"], 2⟩]

/-- The records of photos. -/
def photosRecords : List Record :=
  [{ image 101 10
        [("Title", "Sunset over the sea"),
          ("Keywords", "sea"),
          ("Caption", "Fishing boats returning to the harbour"),
          ("ShotDate", "2021-07-14"),
          ("Width", "4000")] with
        status := 16 },
    image 102 10
        [("Title", "Crowded beach in August"),
          ("Keywords", "beach"),
          ("ShotDate", "2019-08-02"),
          ("Width", "3200"),
          ("Rights", "exclusive agency license")],
    image 103 11
        [("Title", "Glacier under the peak"),
          ("Keywords", "mountain"),
          ("ShotDate", "1998-02-20"),
          ("Width", "2400")],
    { image 104 11
        [("Title", "Ocean waves timelapse"),
          ("Keywords", "ocean"),
          ("ShotDate", "2022-01-05")] with
        type := "video" },
    { image 105 10
        [("Title", "Summer on the coast"),
          ("Caption", "A story about the beach and the sea")] with
        kind := .story }]

/-- The description of the backend of documents. -/
def documentsBackend : Backend where
  id := 2
  name := "documents"
  collections := [⟨20, "Reports"⟩]
  fields :=
    [{ name := "Title" },
      { name := "Author" },
      { name := "Published", kind := .date }]

/-- The records of documents. -/
def documentsRecords : List Record :=
  [{ image 201 20
        [("Title", "Coastal erosion and sea levels"),
          ("Author", "M. Durand"),
          ("Published", "2020-03-11")] with
        type := "document" },
    { image 202 20
        [("Title", "Alpine tourism report"),
          ("Author", "J. Keller"),
          ("Published", "2018-11-30")] with
        type := "document" }]

/-- **The built-in dataset.** -/
def dataset : Dataset where
  indexes :=
    [⟨photosBackend, some photosThesaurus, photosRecords⟩,
      ⟨documentsBackend, none, documentsRecords⟩]

end FederatedSearch.Demo
