import FilterSql.Mapping.Builder

/-!
# The mapping of metadata records

The built-in mapping of the queryable properties of metadata records. Every property is a column of
the table of datasets or of a table that refers to it. Several names mean one column, because the
vocabularies of catalogues overlap.

Model of `iso_queryables`.

* `isoQueryables`: the mapping.
-/

namespace FilterSql.Mapping

/-- The root table of the metadata schema. -/
def datasets : String := "datasets"

/-- The column by which other tables of the schema refer to the root table (`FK_DATASETS`). -/
def datasetsKey : String := "fk_datasets"

/-- The queryable properties: names, table, column and type. -/
def queryables : List (List String × String × String × ValueType) :=
  [(["title", "Title"], "isoqp_title", "title", .text),
   (["abstract", "Abstract"], "isoqp_abstract", "abstract", .text),
   (["BoundingBox", "boundingBox", "coverage"], "isoqp_boundingbox", "bbox", .geometry),
   (["type", "Type"], "isoqp_type", "type", .text),
   (["format", "Format"], "isoqp_format", "format", .text),
   (["subject", "Subject"], "isoqp_keyword", "keyword", .text),
   (["KeywordType"], "isoqp_keyword", "keywordtype", .text),
   (["AnyText", "anyText"], datasets, "anytext", .text),
   (["identifier", "Identifier"], "qp_identifier", "identifier", .text),
   (["modified", "Modified"], datasets, "modified", .timestamp),
   (["CRS"], "isoqp_crs", "crs", .text),
   (["association", "Association", "Relation"], "isoqp_association", "relation", .text),
   (["language", "Language"], datasets, "language", .text),
   (["ResourceLanguage"], datasets, "resourcelanguage", .text),
   (["ParentIdentifier"], datasets, "parentidentifier", .text),
   (["HasSecurityConstraint"], datasets, "hassecurityconstraint", .boolean),
   (["RevisionDate"], "isoqp_revisiondate", "revisiondate", .timestamp),
   (["CreationDate"], "isoqp_creationdate", "creationdate", .timestamp),
   (["PublicationDate"], "isoqp_publicationdate", "publicationdate", .timestamp),
   (["AlternateTitle"], "isoqp_alternatetitle", "alternatetitle", .text),
   (["OrganisationName"], "isoqp_organisationname", "organisationname", .text),
   (["ResourceIdentifier"], "isoqp_resourceidentifier", "resourceidentifier", .text),
   (["TopicCategory"], "isoqp_topiccategory", "topiccategory", .text),
   (["GeographicDescriptionCode"],
     "isoqp_geographicdescriptioncode", "geographicdescriptioncode", .text),
   (["Denominator"], "isoqp_spatialresolution", "denominator", .integer),
   (["DistanceValue"], "isoqp_spatialresolution", "distancevalue", .float),
   (["DistanceUOM"], "isoqp_spatialresolution", "distanceuom", .text),
   (["TempExtent_begin"], "isoqp_temporalextent", "tempextent_begin", .timestamp),
   (["TempExtent_end"], "isoqp_temporalextent", "tempextent_end", .timestamp),
   (["ServiceType"], "isoqp_servicetype", "servicetype", .text),
   (["ServiceTypeVersion"], "isoqp_servicetypeversion", "servicetypeversion", .text),
   (["Operation"], "isoqp_operation", "operation", .text),
   (["OperatesOn"], "isoqp_operatesondata", "operateson", .text),
   (["OperatesOnIdentifier"], "isoqp_operatesondata", "operatesonidentifier", .text),
   (["OperatesOnName"], "isoqp_operatesondata", "operatesonname", .text),
   (["CouplingType"], "isoqp_couplingtype", "couplingtype", .text),
   (["Degree"], "addqp_degree", "degree", .boolean),
   (["AccessConstraints"], "addqp_accessconstraint", "accessconstraint", .text),
   (["OtherConstraints"], "addqp_otherconstraint", "otherconstraint", .text),
   (["Classification"], "addqp_classification", "classification", .text),
   (["ConditionApplyingToAccessAndUse"], "addqp_limitation", "limitation", .text),
   (["Lineage"], "addqp_lineage", "lineage", .text),
   (["SpecificationTitle"], "addqp_specification", "specificationtitle", .text),
   (["SpecificationDateType"], "addqp_specification", "specificationdatetype", .text),
   (["SpecificationDate"], "addqp_specification", "specificationdate", .timestamp)]

/-- Declares a queryable property under all its names. -/
def Builder.queryable (b : Builder) (names : List String) (table column : String)
    (type : ValueType) : Builder :=
  names.foldl (fun b name =>
    if table = datasets then b.column name column type
    else b.joinedColumn name table column type datasetsKey) b

/-- The mapping of the queryable properties of metadata records. -/
def isoQueryables : Except MappingError Mapping :=
  Builder.build
    (queryables.foldl (fun b (names, table, column, type) => b.queryable names table column type)
      (.ofRoot datasets "id"))

end FilterSql.Mapping
