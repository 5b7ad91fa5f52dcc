import WireDictionary.FileTree
import WireDictionary.Main
import WireDictionary.Proofs.AskedColumns
import WireDictionary.Proofs.CommandRuns
import WireDictionary.Proofs.FileReading
import WireDictionary.Proofs.LaterSchemas
import WireDictionary.Proofs.LineOrder
import WireDictionary.Proofs.LoggedLines
import WireDictionary.Proofs.MapUpdates
import WireDictionary.Proofs.MissingOwners
import WireDictionary.Proofs.OutputLines
import WireDictionary.Proofs.Previews
import WireDictionary.Proofs.PrintedConstants
import WireDictionary.Proofs.ReadNumbers
import WireDictionary.Proofs.ReadRows
import WireDictionary.Proofs.Remarks
import WireDictionary.Proofs.RepeatedLines
import WireDictionary.Proofs.RowCounts
import WireDictionary.Proofs.RowKeys
import WireDictionary.Proofs.StructNames
