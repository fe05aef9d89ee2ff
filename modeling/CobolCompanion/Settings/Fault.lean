namespace CobolCompanion.Settings

inductive Fault where
  /-- The text of a file is not valid. -/
  | malformedFile
  /-- A file that has to be there is missing. -/
  | missingFile
  /-- The key of a single setting is no path. -/
  | malformedKey
  /-- A path goes to a place before the start of a list. -/
  | beforeStart
  /-- A path goes to a place that no list reaches. -/
  | beyondReach
  /-- A list, a table or nothing stands where a text is wanted. -/
  | notText
  /-- A value of another shape stands where a list or a section is wanted. -/
  | wrongShape
  deriving DecidableEq

end CobolCompanion.Settings
