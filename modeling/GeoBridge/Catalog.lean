import GeoBridge.Configuration

/-!
Owns the configurations that are compiled in. They assume that the executables are found on the
search path.
-/

namespace GeoBridge.Catalog

/-- The configuration of the raster tool. -/
def gdal : Configuration where
  executable := "gdal_translate"
  formats :=
    [{ toolCode := "JPEG2000", publicName := "GDAL-JPEG2000", extension := some ".jp2",
       singleFile := true, mimeType := some "image/jp2" },
     { toolCode := "PDF", publicName := "GDAL-PDF", extension := some ".pdf",
       singleFile := true, mimeType := some "application/pdf" },
     { toolCode := "AAIGrid", publicName := "GDAL-ArcInfoGrid" },
     { toolCode := "XYZ", publicName := "GDAL-XYZ", extension := some ".txt",
       singleFile := true, mimeType := some "text/plain", kind := .text }]

/-- The configuration of the vector tool. -/
def ogr : Configuration where
  executable := "ogr2ogr"
  formats :=
    [{ toolCode := "MapInfo File", publicName := "OGR-TAB", extension := some ".tab" },
     { toolCode := "MapInfo File", publicName := "OGR-MIF", extension := some ".mif",
       options := ["-dsco", "FORMAT=MIF"] },
     { toolCode := "CSV", publicName := "OGR-CSV", extension := some ".csv",
       singleFile := true, mimeType := some "text/csv", kind := .text,
       options := ["-lco", "GEOMETRY=AS_WKT"] },
     { toolCode := "KML", publicName := "OGR-KML", extension := some ".kml",
       singleFile := true, mimeType := some "application/vnd.google-earth.kml", kind := .xml }]

end GeoBridge.Catalog
