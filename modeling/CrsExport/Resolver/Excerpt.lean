import CrsExport.Resolver.Builtin
/-! An excerpt from the EPSG database, for running the program. Nothing else depends on it: any
database can stand in its place. -/

namespace CrsExport.Database

def excerptEntries : List (UInt16 × StoredSystem) := [
  (2000, {
    proj4 :=
      "+proj=tmerc +lat_0=0 +lon_0=-62 +k=0.9995000000000001 +x_0=400000 +y_0=0 " ++
      "+ellps=clrk80 +units=m +no_defs" }),
  (2001, {
    proj4 :=
      "+proj=tmerc +lat_0=0 +lon_0=-62 +k=0.9995000000000001 +x_0=400000 +y_0=0 " ++
      "+ellps=clrk80 +towgs84=-255,-15,71,0,0,0,0 +units=m +no_defs" }),
  (2002, {
    proj4 :=
      "+proj=tmerc +lat_0=0 +lon_0=-62 +k=0.9995000000000001 +x_0=400000 +y_0=0 " ++
      "+ellps=clrk80 +towgs84=725,685,536,0,0,0,0 +units=m +no_defs" }),
  (2003, {
    proj4 :=
      "+proj=tmerc +lat_0=0 +lon_0=-62 +k=0.9995000000000001 +x_0=400000 +y_0=0 " ++
      "+ellps=clrk80 +towgs84=72,213.7,93,0,0,0,0 +units=m +no_defs" }),
  (2004, {
    proj4 :=
      "+proj=tmerc +lat_0=0 +lon_0=-62 +k=0.9995000000000001 +x_0=400000 +y_0=0 " ++
      "+ellps=clrk80 +towgs84=174,359,365,0,0,0,0 +units=m +no_defs" }),
  (2005, {
    proj4 :=
      "+proj=tmerc +lat_0=0 +lon_0=-62 +k=0.9995000000000001 +x_0=400000 +y_0=0 " ++
      "+ellps=clrk80 +towgs84=9,183,236,0,0,0,0 +units=m +no_defs" }),
  (2006, {
    proj4 :=
      "+proj=tmerc +lat_0=0 +lon_0=-62 +k=0.9995000000000001 +x_0=400000 +y_0=0 " ++
      "+ellps=clrk80 +towgs84=-149,128,296,0,0,0,0 +units=m +no_defs" }),
  (2007, {
    proj4 :=
      "+proj=tmerc +lat_0=0 +lon_0=-62 +k=0.9995000000000001 +x_0=400000 +y_0=0 " ++
      "+ellps=clrk80 +towgs84=195.671,332.517,274.607,0,0,0,0 +units=m +no_defs" }),
  (2009, {
    proj4 :=
      "+proj=tmerc +lat_0=0 +lon_0=-58.5 +k=0.9999 +x_0=304800 +y_0=0 +ellps=clrk66 " ++
      "+units=m +no_defs" }),
  (2010, {
    proj4 :=
      "+proj=tmerc +lat_0=0 +lon_0=-61.5 +k=0.9999 +x_0=304800 +y_0=0 +ellps=clrk66 " ++
      "+units=m +no_defs" }),
  (2011, {
    proj4 :=
      "+proj=tmerc +lat_0=0 +lon_0=-64.5 +k=0.9999 +x_0=304800 +y_0=0 +ellps=clrk66 " ++
      "+units=m +no_defs" }),
  (2012, {
    proj4 :=
      "+proj=tmerc +lat_0=0 +lon_0=-67.5 +k=0.9999 +x_0=304800 +y_0=0 +ellps=clrk66 " ++
      "+units=m +no_defs" }),
  (2013, {
    proj4 :=
      "+proj=tmerc +lat_0=0 +lon_0=-70.5 +k=0.9999 +x_0=304800 +y_0=0 +ellps=clrk66 " ++
      "+units=m +no_defs" }),
  (2014, {
    proj4 :=
      "+proj=tmerc +lat_0=0 +lon_0=-73.5 +k=0.9999 +x_0=304800 +y_0=0 +ellps=clrk66 " ++
      "+units=m +no_defs" }),
  (2015, {
    proj4 :=
      "+proj=tmerc +lat_0=0 +lon_0=-76.5 +k=0.9999 +x_0=304800 +y_0=0 +ellps=clrk66 " ++
      "+units=m +no_defs" }),
  (2016, {
    proj4 :=
      "+proj=tmerc +lat_0=0 +lon_0=-79.5 +k=0.9999 +x_0=304800 +y_0=0 +ellps=clrk66 " ++
      "+units=m +no_defs" }),
  (2017, {
    proj4 :=
      "+proj=tmerc +lat_0=0 +lon_0=-73.5 +k=0.9999 +x_0=304800 +y_0=0 +ellps=clrk66 " ++
      "+units=m +no_defs" }),
  (2018, {
    proj4 :=
      "+proj=tmerc +lat_0=0 +lon_0=-76.5 +k=0.9999 +x_0=304800 +y_0=0 +ellps=clrk66 " ++
      "+units=m +no_defs" }),
  (2019, {
    proj4 :=
      "+proj=tmerc +lat_0=0 +lon_0=-79.5 +k=0.9999 +x_0=304800 +y_0=0 +ellps=clrk66 " ++
      "+units=m +no_defs" }),
  (3857, {
    proj4 :=
      "+proj=merc +a=6378137 +b=6378137 +lat_ts=0.0 +lon_0=0.0 +x_0=0.0 +y_0=0 +k=1.0 " ++
      "+units=m +nadgrids=@null +wktext  +no_defs",
    wkt :=
      "PROJCS[\"WGS 84 / Pseudo-Mercator\",GEOGCS[\"WGS 84\",DATUM[\"WGS_1984\"," ++
      "SPHEROID[\"WGS 84\",6378137,298.257223563,AUTHORITY[\"EPSG\",\"7030\"]]," ++
      "AUTHORITY[\"EPSG\",\"6326\"]],PRIMEM[\"Greenwich\",0,AUTHORITY[\"EPSG\"," ++
      "\"8901\"]],UNIT[\"degree\",0.0174532925199433,AUTHORITY[\"EPSG\",\"9122\"]]," ++
      "AUTHORITY[\"EPSG\",\"4326\"]],PROJECTION[\"Mercator_1SP\"]," ++
      "PARAMETER[\"central_meridian\",0],PARAMETER[\"scale_factor\",1]," ++
      "PARAMETER[\"false_easting\",0],PARAMETER[\"false_northing\",0],UNIT[\"metre\",1," ++
      "AUTHORITY[\"EPSG\",\"9001\"]],AXIS[\"X\",EAST],AXIS[\"Y\",NORTH]," ++
      "EXTENSION[\"PROJ4\",\"+proj=merc +a=6378137 +b=6378137 +lat_ts=0.0 +lon_0=0.0 " ++
      "+x_0=0.0 +y_0=0 +k=1.0 +units=m +nadgrids=@null +wktext  +no_defs\"]," ++
      "AUTHORITY[\"EPSG\",\"3857\"]]" }),
  (3873, {
    proj4 :=
      "+proj=tmerc +lat_0=0 +lon_0=19 +k=1 +x_0=19500000 +y_0=0 +ellps=GRS80 +towgs84=0," ++
      "0,0,0,0,0,0 +units=m +no_defs" }),
  (3874, {
    proj4 :=
      "+proj=tmerc +lat_0=0 +lon_0=20 +k=1 +x_0=20500000 +y_0=0 +ellps=GRS80 +towgs84=0," ++
      "0,0,0,0,0,0 +units=m +no_defs" }),
  (4258, {
    proj4 :=
      "+proj=longlat +ellps=GRS80 +towgs84=0,0,0,0,0,0,0 +no_defs" }),
  (4259, {
    proj4 :=
      "+proj=longlat +ellps=intl +towgs84=-254.1,-5.36,-100.29,0,0,0,0 +no_defs" }),
  (4261, {
    proj4 :=
      "+proj=longlat +a=6378249.2 +b=6356515 +towgs84=31,146,47,0,0,0,0 +no_defs" }),
  (4262, {
    proj4 :=
      "+proj=longlat +ellps=bessel +towgs84=639,405,60,0,0,0,0 +no_defs" }),
  (4322, {
    proj4 :=
      "+proj=longlat +ellps=WGS72 +towgs84=0,0,4.5,0,0,0.554,0.2263 +no_defs" }),
  (4324, {
    proj4 :=
      "+proj=longlat +ellps=WGS72 +towgs84=0,0,1.9,0,0,0.814,-0.38 +no_defs" }),
  (4326, {
    proj4 :=
      "+proj=longlat +datum=WGS84 +no_defs",
    wkt :=
      "GEOGCS[\"WGS 84\",DATUM[\"WGS_1984\",SPHEROID[\"WGS 84\",6378137,298.257223563," ++
      "AUTHORITY[\"EPSG\",\"7030\"]],AUTHORITY[\"EPSG\",\"6326\"]],PRIMEM[\"Greenwich\"," ++
      "0,AUTHORITY[\"EPSG\",\"8901\"]],UNIT[\"degree\",0.0174532925199433," ++
      "AUTHORITY[\"EPSG\",\"9122\"]],AUTHORITY[\"EPSG\",\"4326\"]]" }),
  (22300, {
    proj4 :=
      "",
    wkt :=
      "PROJCS[\"Carthage (Paris) / Tunisia Mining Grid\",GEOGCS[\"Carthage (Paris)\"," ++
      "DATUM[\"Carthage_Paris\",SPHEROID[\"Clarke 1880 (IGN)\",6378249.2," ++
      "293.4660212936265,AUTHORITY[\"EPSG\",\"7011\"]],TOWGS84[-263,6,431,0,0,0,0]," ++
      "AUTHORITY[\"EPSG\",\"6816\"]],PRIMEM[\"Paris\",2.33722917,AUTHORITY[\"EPSG\"," ++
      "\"8903\"]],UNIT[\"grad\",0.01570796326794897,AUTHORITY[\"EPSG\",\"9105\"]]," ++
      "AUTHORITY[\"EPSG\",\"4816\"]],PROJECTION[\"Tunisia_Mining_Grid\"]," ++
      "PARAMETER[\"latitude_of_origin\",38.81973],PARAMETER[\"central_meridian\"," ++
      "7.83445],PARAMETER[\"false_easting\",270],PARAMETER[\"false_northing\",582]," ++
      "UNIT[\"kilometre\",1000,AUTHORITY[\"EPSG\",\"9036\"]],AXIS[\"Easting\",EAST]," ++
      "AXIS[\"Northing\",NORTH],AUTHORITY[\"EPSG\",\"22300\"]]" }),
  (27700, {
    proj4 :=
      "+proj=tmerc +lat_0=49 +lon_0=-2 +k=0.9996012717 +x_0=400000 +y_0=-100000 " ++
      "+ellps=airy +towgs84=446.448,-125.157,542.06,0.15,0.247,0.842,-20.489 +units=m " ++
      "+no_defs",
    wkt :=
      "PROJCS[\"OSGB 1936 / British National Grid\",GEOGCS[\"OSGB 1936\"," ++
      "DATUM[\"OSGB_1936\",SPHEROID[\"Airy 1830\",6377563.396,299.3249646," ++
      "AUTHORITY[\"EPSG\",\"7001\"]],TOWGS84[446.448,-125.157,542.06,0.15,0.247,0.842," ++
      "-20.489],AUTHORITY[\"EPSG\",\"6277\"]],PRIMEM[\"Greenwich\",0,AUTHORITY[\"EPSG\"," ++
      "\"8901\"]],UNIT[\"degree\",0.0174532925199433,AUTHORITY[\"EPSG\",\"9122\"]]," ++
      "AUTHORITY[\"EPSG\",\"4277\"]],PROJECTION[\"Transverse_Mercator\"]," ++
      "PARAMETER[\"latitude_of_origin\",49],PARAMETER[\"central_meridian\",-2]," ++
      "PARAMETER[\"scale_factor\",0.9996012717],PARAMETER[\"false_easting\",400000]," ++
      "PARAMETER[\"false_northing\",-100000],UNIT[\"metre\",1,AUTHORITY[\"EPSG\"," ++
      "\"9001\"]],AXIS[\"Easting\",EAST],AXIS[\"Northing\",NORTH],AUTHORITY[\"EPSG\"," ++
      "\"27700\"]]" }),
  (29701, {
    proj4 :=
      "" }),
  (29702, {
    proj4 :=
      "+proj=omerc +lat_0=-18.9 +lonc=44.10000000000001 +alpha=18.9 " ++
      "+k=0.9995000000000001 +x_0=400000 +y_0=800000 +gamma=18.9 +ellps=intl " ++
      "+towgs84=-189,-242,-91,0,0,0,0 +pm=paris +units=m +no_defs" }),
  (32601, {
    proj4 :=
      "+proj=utm +zone=1 +datum=WGS84 +units=m +no_defs" }),
  (32766, {
    proj4 :=
      "+proj=tmerc +lat_0=0 +lon_0=36 +k=0.9996 +x_0=500000 +y_0=10000000 +datum=WGS84 " ++
      "+units=m +no_defs" })]

def excerpt : Database := fun key => excerptEntries.lookup key

end CrsExport.Database
