/-!
# The list of character names

The names of the characters of version 14 of the standard, with their other names, in order. Names that are made by a rule are left out.
Small letters say how much of the name before is kept, and what follows them is the rest of the name.
-/

namespace ClassChain.Text.CharacterName

/-- The first quarter of the list. -/
def firstQuarter : List String := [
    "aABACUSbC CURRENTcCORDIONeUNT OFcKdNOWLEDGEcTIVATE ARABIC FORM SHAPINGjSYMMETRIC SWAPPINGcUTE ACCENThNGLE",
    "bDDRESSED TO THE SUBJECTcHESIVE BANDAGEcI SHAKTIcLAM ALIF LENGTHENERgCAPITAL LETTER ALIFvBAwHEvCHIvDAALIwHAvEvFAvGAwBEvHA",
    "vIvJIIMvKAFwHAwPOvLAAMvMIIMvNHAwUNwYAvOvPEvQAAFvRAvSHAwINNYIIYHEvTUvUvVAvWAWvYAwHEvZALhONSONANT MODIFIERgDIGIT EIGHTmFIVE",
    "nOURmNINEmONEmSEVENnIXmTHREEnWOmZEROgGEMINATE CONSONANT MODIFIERnION MARKgHAMZAgINITIAL EXCLAMATION MARKoQUESTION MARK",
    "gNASALIZATION MARKhUKTAgSMALL LETTER ALIFtBAuHEtCHItDAALIuHAtEtFAtGAuBEtHAtItJIIMtKAFuHAuPOtLAAMtMIIMtNHAuUNuYAtOtPEtQAAF",
    "tRAtSHAuINNYIIYHEtTUtUtVAtWAWtYAuHEtZALgVOWEL LENGTHENERcMETOSdISSION TICKETScULTbEGEAN CHECK MARK",
    "hDRY MEASURE FIRST SUBUNIThLIQUID MEASURE FIRST SUBUNIThMEASURE SECOND SUBUNITpTHIRD SUBUNIThNUMBER EIGHTt HUNDRED",
    "uTHOUSANDtYu THOUSANDoFIFTYt THOUSANDqVEs HUNDREDtTHOUSANDpORTYt THOUSANDqURs HUNDREDtTHOUSANDoNINEs HUNDREDtTHOUSANDsTY",
    "u THOUSANDoONEr HUNDREDsTHOUSANDoSEVENt HUNDREDuTHOUSANDtTYv THOUSANDpIXr HUNDREDsTHOUSANDrTYt THOUSANDoTENr THOUSAND",
    "pHIRTYu THOUSANDqREEt HUNDREDuTHOUSANDpWENTYu THOUSANDqOr HUNDREDsTHOUSANDhWEIGHT BASE UNIToFIRST SUBUNITpOURTH SUBUNIT",
    "oSECOND SUBUNIToTHIRD SUBUNITiORD SEPARATOR DOTwLINEcRIAL TRAMWAYbFGHANI SIGNbHOM CONSONANT SIGN MEDIAL LAzdIGATING RAzcRA",
    "fDIGIT EIGHTlFIVEmOURlNINElONElSEVENmIXlTHREEmWOlZEROfLETTER AnLTERNATE BAwGAwTAmBAnHAmCAnHAmDAnDAoHAnHAmGAnHAmHAmJAnHAmKA",
    "nHAmLAnLAmMAmNAnGAnNAnYAmPAnHAmRAmSAmTAnHAnTAoHAfNUMBER TENnWENTYfSIGN KILLERkRULAIkSECTIONlMALL SECTIONgYMBOL VI",
    "fVOWEL SIGN ArArIrMrWqEqIrIqOqUrUbIRPLANEi ARRIVINGjDEPARTUREbKTIESELSKABbLARM CLOCKcCHEMICAL SYMBOL FOR AIRxLEMBICyKALI",
    "zd-2yUMxMALGAMxNTIMONY ORExQUA REGIAzh-2zcVITAEzh-2zbFORTISxRSENICxSHESxURIPIGMENTwBATH OF MARYzfVAPOURSxISMUTH ORE",
    "xLACK SULFURxORAXzc-2zd3xRICKwCADUCEUSyLXyPUT MORTUUMxINNABARxOPPER ANTIMONIATEzeORExROCUS OF COPPERzn-2zhIRONyUCIBLEzf-2",
    "zg3zg4zg5wDAY-NIGHTxISSOLVEzf-2zaTILLwEARTHwFIREwGOLDxUMwHALF DRAMzcOUNCExORSE DUNGyURwIRON OREzf-2zb-COPPER OREwLEAD ORE",
    "xODESTONEwMARCASITExERCURY SUBLIMATEzo-2zp3xONTHwNIGHTyTREwOILwPHILOSOPHERS SULFURxOT ASHESyWDERzdED BRICKxRECIPITATE",
    "xURIFYyTREFACTIONwQUICK LIMEzaNTESSENCEwREALGARze-2yGULUSze OF ANTIMONYzq-2ziIRONze-2zf3zf4yTORTxOCK SALTzg-2wSAL-AMMONIAC",
    "zaTzb OF ANTIMONYzfCOPPER ANTIMONIATExCEPTER OF JOVExILVERxOAPxPIRITxTARRED TRIDENTyRATUM SUPER STRATUMzs-2",
    "xUBLIMATE OF ANTIMONYzkCOPPERzkSALT OF ANTIMONYzsCOPPERzfIONyLFURwTARTARzd-2xIN OREzaCTURExRIDENTxUTTYwURINEwVERDIGRIS",
    "xINEGARze OF ANTIMONYze-2zf3yTRIOLze-2wWATERyXcEF SYMBOLdMBICdRTcIEN MONSTERcL AROUND-PROFILEeEQUAL TOcM",
    "dOST EQUAL OR EQUAL TOnTOp WITH CIRCUMFLEX ACCENTcTERNATE ONE-WAY LEFT WAY TRAFFICiIVE KEY SYMBOLbMALGAMATION OR COPRODUCT",
    "cBULANCEcERICAN FOOTBALLcPERSANDdHORAbNATOLIAN HIEROGLYPH A001y2y3y4y5y6y7y8y9x10zaAy1y2y3y4y5y6y7y8y9x20y1y2y3y4y5y6zaAy7",
    "y8y9x30y1y2y3y4y5y6y7y8y9zaAx40y1zaAy2y3y4y5zaAy6zaAzaBy7y8y9x50y1y2y3y4y5y6y7y8y9x60y1y2y3y4y5y6zaAzaBzaCy7y8y9x70y1y2y3",
    "y4y5y6y7y8y9x80y1y2y3y4y5y6y7y8y9x90y1y2y3y4y5y6y7zaAy8zaAy9w100zaAy1zaAy2zaAy3y4zaAzaBzaCy5zaAzaBy6y7zaAzaBzaCy8y9x10zaA",
    "zaBy1y2y3y4y5zaAy6y7y8y9x20y1y2y3y4y5zaAy6y7y8y9x30y1y2y3y4y5zaAy6y7y8y9x40y1y2y3y4y5y6y7y8y9x50y1y2y3y4y5y6y7y8y9x60y1y2",
    "y3y4y5y6y7y8y9x70y1y2y3y4y5y6y7y8y9x80y1y2y3y4y5y6y7y8y9x90y1y2y3y4y5y6y7y8y9w200y1y2zaAzaBy3y4y5y6y7zaAy8y9zaAx10y1y2y3y4",
    "y5zaAy6zaAy7y8y9x20y1y2y3y4y5y6y7zaAy8y9x30y1y2y3y4y5y6y7y8y9x40y1y2y3y4y5y6y7y8y9x50y1y2y3y4y5y6y7y8y9x60y1y2y3y4y5y6y7",
    "zaAy8y9x70y1y2y3y4y5y6y7y8y9x80y1y2y3y4y5y6y7y8y9zaAx90y1y2y3y4zaAy5y6y7y8y9zaAw300y1y2y3y4y5y6y7y8y9zaAx10y1y2y3y4y5y6y7",
    "y8y9x20y1y2y3y4y5y6y7y8y9zaAx30y1y2AzaBzaCy3y4y5y6zaAzaBzaCy7y8y9x40y1y2y3y4y5y6y7y8y9x50y1y2y3y4y5y6y7y8y9zaAx60y1y2y3y4",
    "zaAy5y6y7y8zaAy9x70y1zaAy2y3y4y5y6y7y8y9x80y1zaAy2y3 RA OR RIzaAy4y5y6zaAy7y8y9x90y1y2y3 EIGHTy4y5y6y7y8y9w400y1y2y3y4y5y6",
    "y7y8y9x10 BEGIN LOGOGRAM MARKzaA END LOGOGRAM MARKy1y2y3y4y5y6y7y8y9x20y1y2y3y4y5y6y7y8y9x30y1y2y3y4y5y6y7y8y9x40y1y2y3y4",
    "y5y6y7y8y9x50zaAy1y2y3y4y5y6y7zaAy8y9x60y1y2y3y4y5y6y7y8y9x70y1y2y3y4y5y6y7y8y9x80y1y2y3y4y5y6y7y8y9x90y1y2y3y4y5y6y7w501",
    "y2y3y4y5y6y7y8y9x10y1y2y3y4y5y6y7y8y9x20y1y2y3y4y5y6y7y8y9x30fMICAL HEARTcCHORcD WITH DOTcGER SYMBOLdLEf WITH S INSIDE",
    "lUNDERBARdRY FACEdSTROM SIGNdUISHED FACEcKHcTdENNA WITH BARSdICLOCKWISE CLOSED CIRCLE ARROWpONTOUR INTEGRAL",
    "oDOWNWARDS AND UPWARDS OPEN CIRCLE ARROWSoGAPPED CIRCLE ARROWoINTEGRATIONoOPEN CIRCLE ARROWoTOP SEMICIRCLE ARROW",
    "pRIANGLE-HEADED BOTTOM U-SHAPED ARROWzfLEFT U-SHAPED ARROWzfOPEN CIRCLE ARROWzfRIGHT U-SHAPED ARROWzfTOP U-SHAPED ARROWbPC",
    "cL FUNCTIONAL SYMBOL ALPHAzc UNDERBARwBACKSLASH BARwCIRCLE BACKSLASHzeDIAERESISzeJOTzeSTARzgILEzeUNDERBARxOMMA BAR",
    "wDEL DIAERESISzbSTILEzbTILDEzaTA STILEzdUNDERBARxIAMOND UNDERBARxOWN CARET TILDEzcSHOE STILEzcTACK JOTzhUNDERBAR",
    "zbWARDS VANEwEPSILON UNDERBARwGREATER-THAN DIAERESISwI-BEAMxOTAzb UNDERBARwJOT DIAERESISzbUNDERBARwLEFT SHOE STILE",
    "zbWARDS VANEwOMEGAzc UNDERBARwQUADzb BACKSLASHzcCIRCLEzdOLONzcDELzfTAzdIAMONDzeVIDEzdOWN CARETzgWARDS ARROWzcEQUAL",
    "zcGREATER-THANzcJOTzcLEFTWARDS ARROWzeSS-THANzcNOT EQUALzcQUESTIONzcRIGHTWARDS ARROWzcSLASHzcUP CARETzeWARDS ARROW",
    "yOTE QUADzdUNDERBARwRHOxIGHTWARDS VANEwSEMICOLON UNDERBARxLASH BARxQUISH QUADxTAR DIAERESISyILE TILDEwTILDE DIAERESIS",
    "wUP CARET TILDEzaSHOE JOTzaTACK DIAERESISzfJOTzfOVERBARyWARDS VANEwZILDEcOLLONdSTROPHEcPLICATION PROGRAM COMMAND",
    "dROACHES THE LIMITfXIMATELY BUT NOT ACTUALLY EQUAL TOoEQUAL OR EQUAL TOuTOw OR THE IMAGE OFbQUARIUS",
    "bRABIC BASELINE ROUND DOThCOMMAiURLY DAMMAsTANnFATHAsTANnKASRAsTANhDAMMAm ISOLATED FORMnMEDIAL FORMnWITH DOTmTAN",
    "p ISOLATED FORMjTE SEPARATORiECIMAL SEPARATORiISPUTED END OF AYAHiOUBLE RIGHT ARROWHEAD ABOVEzk WITH DOTnD MADDA",
    "hEMPTY CENTRE HIGH STOPuLOW STOPiND OF AYAHoTEXT MARKhFATHAm ISOLATED FORMnMEDIAL FORMnWITH DOT ABOVEsRINGsTWO DOTSmTAN",
    "p ISOLATED FORMiIVE POINTED STARiOOTNOTE MARKERiULL STOPhHALF MADDA OVER MADDAjMZA ABOVEnBELOWhINVERTED DAMMAhKASRA",
    "m ISOLATED FORMnMEDIAL FORMnWITH DOT BELOWmTANp ISOLATED FORMhLARGE CIRCLE BELOWnROUND DOT ABOVExBELOWxINSIDE CIRCLE BELOW",
    "iEFT ARROWHEAD ABOVEwBELOWjTTER AEpFRICAN FEHwNOONwQAFza WITH THREE DOTS ABOVEpINr FINAL FORMsINITIAL FORMtSOLATED FORM",
    "sMEDIAL FORMsWITH THREE DOTS ABOVEzjBELOWzjPOINTING DOWNWARDS ABOVEyWO DOTS ABOVEzhVERTICALLY ABOVEpLEFs FINAL FORM",
    "tISOLATED FORMtMAKSURAzb FINAL FORMzcISOLATED FORMtWASLAy FINAL FORMzaISOLATED FORMuITH ATTACHED BOTTOM RIGHT KASRA",
    "zzb AND DOT ABOVEzzgLEFT RINGziFATHAziKASRAziLEFT HAMZAznROUND DOTziRIGHT HAMZAzoROUND DOTzjOUND DOT ABOVEzsBELOW",
    "ziTOP RIGHT FATHAzx AND DOT ABOVEzzdLEFT RINGyDOT ABOVEyEXTENDED ARABIC-INDIC DIGIT THREE ABOVEzzdWO ABOVEyHAMZA ABOVE",
    "zk FINAL FORMzlISOLATED FORMzfBELOWzk FINAL FORMzlISOLATED FORMyLEFT MIDDLE STROKEyMADDA ABOVEzk FINAL FORMzlISOLATED FORM",
    "yRIGHT MIDDLE STROKEzs AND DOT ABOVEzxLEFT RINGyWAVY HAMZA ABOVEzkBELOWoBEEHs FINAL FORMtINITIAL FORMuSOLATED FORM",
    "tMEDIAL FORMqHr FINAL FORMsINITIAL FORMtSOLATED FORMsMEDIAL FORMsWITH DOT BELOW AND THREE DOTS ABOVExHAMZA ABOVE",
    "xINVERTED SMALL V BELOWxSMALL MEEM ABOVEzeVzf BELOWxTHREE DOTS HORIZONTALLY BELOWzjPOINTING UPWARDS BELOW",
    "zzg AND TWO DOTS ABOVEyWO DOTS BELOW AND DOT ABOVErEHt FINAL FORMuINITIAL FORMvSOLATED FORMuMEDIAL FORMoDADr FINAL FORM",
    "sINITIAL FORMtSOLATED FORMsMEDIAL FORMsWITH DOT BELOWqHALt FINAL FORMuISOLATED FORMqLr FINAL FORMsISOLATED FORM",
    "sWITH DOT BELOWzh AND SMALL TAHxFOUR DOTS ABOVExINVERTED SMALL V BELOWzhVxRINGxTHREE DOTS ABOVE DOWNWARDSzjBELOW",
    "yWO DOTS VERTICALLY BELOW AND SMALL TAHpDAHALu FINAL FORMvISOLATED FORMrLs FINAL FORMtISOLATED FORMpOTLESS BEHwFEHwQAFpUL",
    "r FINAL FORMsISOLATED FORMpYEHs FINAL FORMtINITIAL FORMuSOLATED FORMtMEDIAL FORMoEp FINAL FORMqINITIAL FORMrSOLATED FORM",
    "qMEDIAL FORMoFARSI YEHx FINAL FORMyINITIAL FORMzaSOLATED FORMyMEDIAL FORMyWITH EXTENDED ARABIC-INDIC DIGIT FOUR BELOW",
    "zzhTHREE ABOVEzziWO ABOVEzeINVERTED VzeTHREE DOTS ABOVEzfWO DOTS ABOVEpEHr FINAL FORMsINITIAL FORMtSOLATED FORM",
    "sMEDIAL FORMsWITH DOT BELOWzh AND THREE DOTS ABOVEzcMOVED BELOWxTHREE DOTS BELOWzjPOINTING UPWARDS BELOWyWO DOTS BELOWoGAF",
    "r FINAL FORMsINITIAL FORMtSOLATED FORMsMEDIAL FORMsWITH INVERTED STROKExRINGxTHREE DOTS ABOVEyWO DOTS BELOWpHAIN",
    "t FINAL FORMuINITIAL FORMvSOLATED FORMuMEDIAL FORMuWITH DOT BELOWzaTHREE DOTS ABOVEpRAFpUEHs FINAL FORMtINITIAL FORM",
    "uSOLATED FORMtMEDIAL FORMoHAHr FINAL FORMsINITIAL FORMtSOLATED FORMsMEDIAL FORM",
    "sWITH EXTENDED ARABIC-INDIC DIGIT FOUR BELOWxHAMZA ABOVExINVERTED SMALL V BELOWxSMALL ARABIC LETTER TAH ABOVEzxND TWO DOTS",
    "zwBELOWxTHREE DOTS ABOVEzjPOINTING UPWARDS BELOWyWO DOTS ABOVEzhVERTICAL ABOVEqMZAt ISOLATED FORMpEHr DOACHASHMEE",
    "ze FINAL FORMzfINITIAL FORMzgSOLATED FORMzfMEDIAL FORMsFINAL FORMsGOALw FINAL FORMxINITIAL FORMySOLATED FORMxMEDIAL FORM",
    "xWITH HAMZA ABOVEsINITIAL FORMtSOLATED FORMsMEDIAL FORMsWITH INVERTED VxYEH ABOVEzh FINAL FORMziISOLATED FORMpIGH HAMZA",
    "y ALEFzaWAWzaYEHoJEEMs FINAL FORMtINITIAL FORMuSOLATED FORMtMEDIAL FORMtWITH THREE DOTS ABOVEzkBELOWzaWO DOTS ABOVEqH",
    "r FINAL FORMsISOLATED FORMoKAFr FINAL FORMsINITIAL FORMtSOLATED FORMsMEDIAL FORMsWITH DOT ABOVEzcBELOWxRING",
    "xTHREE DOTS BELOWyWO DOTS ABOVEqSHMIRI YEHpEHEHt FINAL FORMuINITIAL FORMvSOLATED FORMuMEDIAL FORMuWITH DOT ABOVEzaSMALL V",
    "zaTHREE DOTS ABOVEzlBELOWzlPOINTING UPWARDS BELOWzbWO DOTS ABOVEzjVERTICALLY BELOWpHAHs FINAL FORMtINITIAL FORM",
    "uSOLATED FORMtMEDIAL FORMpIRGHIZ OEy FINAL FORMzaISOLATED FORMwYUy FINAL FORMzaISOLATED FORMoLAMr FINAL FORMsINITIAL FORM",
    "tSOLATED FORMsMEDIAL FORMsWITH BARxDOT ABOVEzaUBLE BARxSMALL ARABIC LETTER TAH ABOVEzeVxTHREE DOTS ABOVEzjBELOWpOW ALEF",
    "oMARKpEEMs FINAL FORMtINITIAL FORMuSOLATED FORMtMEDIAL FORMtWITH DOT ABOVEzdBELOWyTHREE DOTS ABOVEoNGq FINAL FORM",
    "rINITIAL FORMsSOLATED FORMrMEDIAL FORMqOEHt FINAL FORMuINITIAL FORMvSOLATED FORMuMEDIAL FORMpOONs FINAL FORMtGHUNNA",
    "za FINAL FORMzbISOLATED FORMtINITIAL FORMuSOLATED FORMtMEDIAL FORMtWITH DOT BELOWyINVERTED SMALL VyRINGySMALL TAHzfV",
    "yTHREE DOTS ABOVEzaWO DOTS BELOWpYEHs FINAL FORMtINITIAL FORMuSOLATED FORMtMEDIAL FORMoOEq FINAL FORMrISOLATED FORMoPEH",
    "r FINAL FORMsINITIAL FORMtSOLATED FORMsMEDIAL FORMsWITH SMALL MEEM ABOVEzeVrEHt FINAL FORMuINITIAL FORMvSOLATED FORM",
    "uMEDIAL FORMoQAFr FINAL FORMsINITIAL FORMtSOLATED FORMsMEDIAL FORMsWITH DOT ABOVEzcBELOWzh AND NO DOTS ABOVE",
    "xTHREE DOTS ABOVEoREHr FINAL FORMsISOLATED FORMsWITH DOT BELOWzh AND DOT ABOVExFOUR DOTS ABOVExHAMZA ABOVExINVERTED VxLOOP",
    "xRINGxSMALL ARABIC LETTER TAH AND TWO DOTSzeNOON ABOVEzeVzf BELOWyTROKExTWO DOTS ABOVEzhVERTICALLY ABOVEpNOONt FINAL FORM",
    "uINITIAL FORMvSOLATED FORMuMEDIAL FORMpOHINGYA YEHpREHs FINAL FORMtISOLATED FORMoSADr FINAL FORMsINITIAL FORMtSOLATED FORM",
    "sMEDIAL FORMsWITH THREE DOTS ABOVEzjBELOWyWO DOTS BELOWpEENs FINAL FORMtINITIAL FORMuSOLATED FORMtMEDIAL FORM",
    "tWITH DOT BELOW AND DOT ABOVEyEXTENDED ARABIC-INDIC DIGIT FOUR ABOVEyFOUR DOTS ABOVEyINVERTED V",
    "ySMALL ARABIC LETTER TAH AND TWO DOTSyTHREE DOTS BELOWzp AND THREE DOTS ABOVEzaWO DOTS VERTICALLY ABOVEpHEENt FINAL FORM",
    "uINITIAL FORMvSOLATED FORMuMEDIAL FORMuWITH DOT BELOWpTRAIGHT WAWpUPERSCRIPT ALEFpWASH KAFoTAHr FINAL FORMsINITIAL FORM",
    "tSOLATED FORMsMEDIAL FORMsWITH DOT BELOWxTHREE DOTS ABOVEzjBELOWyWO DOTS ABOVEpCHEHt FINAL FORMuINITIAL FORMvSOLATED FORM",
    "uMEDIAL FORMuWITH DOT ABOVEzaSMALL VtEHv FINAL FORMwINITIAL FORMxSOLATED FORMwMEDIAL FORMpEHr FINAL FORMsINITIAL FORM",
    "tSOLATED FORMsMARBUTAza FINAL FORMzbGOALzbISOLATED FORMtEDIAL FORMsWITH RINGxSMALL TEH ABOVEzeVxTHREE DOTS ABOVE DOWNWARDS",
    "rEHt FINAL FORMuINITIAL FORMvSOLATED FORMuMEDIAL FORMpHALs FINAL FORMtISOLATED FORMqEHs FINAL FORMtINITIAL FORM",
    "uSOLATED FORMtMEDIAL FORMqIN YEHpTEHs FINAL FORMtINITIAL FORMuSOLATED FORMtMEDIAL FORMtWITH SMALL VsEHu FINAL FORM",
    "vINITIAL FORMwSOLATED FORMvMEDIAL FORMoUp FINAL FORMqISOLATED FORMqWITH HAMZA ABOVEzh ISOLATED FORM",
    "pIGHUR KAZAKH KIRGHIZ ALEF MAKSURA INITIAL FORMzyMEDIAL FORMoVEq FINAL FORMrISOLATED FORMqHr FINAL FORMsINITIAL FORM",
    "tSOLATED FORMsMEDIAL FORMoWAWr FINAL FORMsISOLATED FORMsWITH DOT ABOVEzcWITHINxEXTENDED ARABIC-INDIC DIGIT THREE ABOVE",
    "zzcWO ABOVExHAMZA ABOVEzj FINAL FORMzkISOLATED FORMxRINGxTWO DOTS ABOVEoYEHr BARREEy FINAL FORMzaISOLATED FORM",
    "zaWITH EXTENDED ARABIC-INDIC DIGIT THREE ABOVEzzjWO ABOVEzfHAMZA ABOVEzq FINAL FORMzrISOLATED FORMsFINAL FORMsINITIAL FORM",
    "tSOLATED FORMsMEDIAL FORMsWITH HAMZA ABOVEzj FINAL FORMzkINITIAL FORMzlSOLATED FORMzkMEDIAL FORMxSMALL VxTAIL",
    "yHREE DOTS BELOWyWO DOTS BELOW AND DOT ABOVEzrHAMZA ABOVEzrSMALL NOON ABOVEpUq FINAL FORMrISOLATED FORMoZAHr FINAL FORM",
    "sINITIAL FORMtSOLATED FORMsMEDIAL FORMqINs FINAL FORMtISOLATED FORMtWITH INVERTED V ABOVE",
    "iIGATURE AIN WITH ALEF MAKSURA FINAL FORMznISOLATED FORMzaJEEM INITIAL FORMzgSOLATED FORMzfWITH MEEM FINAL FORM",
    "zpINITIAL FORMzaMEEM INITIAL FORMzgSOLATED FORMzfWITH ALEF MAKSURA FINAL FORMzkMEEM FINAL FORMzpINITIAL FORM",
    "zkYEH FINAL FORMzaYEH FINAL FORMzeISOLATED FORMrKBAR ISOLATED FORMrLAYHAA AS-SALAAMvE ISOLATED FORMvI AS-SALAAM",
    "zgTU WAS-SALAAMwM AS-SALAAMxAA AS-SALAAMsEF MAKSURA WITH SUPERSCRIPT ALEF FINAL FORMzzbISOLATED FORM",
    "vWITH FATHATAN FINAL FORMzkISOLATED FORMsLAH ISOLATED FORMrZZA WA JALLqBEH WITH ALEF MAKSURA FINAL FORMznISOLATED FORM",
    "zaHAH INITIAL FORMzfSOLATED FORMzeWITH YEH FINAL FORMzbEH INITIAL FORMzeMEDIAL FORMzaJEEM INITIAL FORMzgSOLATED FORM",
    "zaKHAH INITIAL FORMzgSOLATED FORMzfWITH YEH FINAL FORMzaMEEM FINAL FORMzfINITIAL FORMzgSOLATED FORMzfMEDIAL FORM",
    "zaNOON FINAL FORMzaREH FINAL FORMzaYEH FINAL FORMzeISOLATED FORMzaZAIN FINAL FORMrISMILLAH AR-RAHMAN AR-RAHEEM",
    "qDAD WITH ALEF MAKSURA FINAL FORMznISOLATED FORMzaHAH INITIAL FORMzfSOLATED FORMzeWITH ALEF MAKSURA FINAL FORM",
    "zjYEH FINAL FORMzaJEEM INITIAL FORMzgSOLATED FORMzaKHAH INITIAL FORMzgSOLATED FORMzfWITH MEEM FINAL FORMzpINITIAL FORM",
    "zaMEEM INITIAL FORMzgSOLATED FORMzaREH FINAL FORMzeISOLATED FORMzaYEH FINAL FORMzeISOLATED FORM",
    "qFEH WITH ALEF MAKSURA FINAL FORMznISOLATED FORMzaHAH INITIAL FORMzfSOLATED FORMzaJEEM INITIAL FORMzgSOLATED FORM",
    "zaKHAH INITIAL FORMzgSOLATED FORMzfWITH MEEM FINAL FORMzpINITIAL FORMzaMEEM INITIAL FORMzgSOLATED FORM",
    "zfWITH YEH FINAL FORMzaYEH FINAL FORMzeISOLATED FORMqGHAIN WITH ALEF MAKSURA FINAL FORMzpISOLATED FORMzcJEEM INITIAL FORM",
    "ziSOLATED FORMzcMEEM INITIAL FORMziSOLATED FORMzhWITH ALEF MAKSURA FINAL FORMzmMEEM FINAL FORMzmYEH FINAL FORM",
    "zcYEH FINAL FORMzgISOLATED FORMqHAH WITH ALEF MAKSURA FINAL FORMznISOLATED FORMzaJEEM INITIAL FORMzgSOLATED FORM",
    "zfWITH YEH FINAL FORMzaMEEM INITIAL FORMzgSOLATED FORMzfWITH ALEF MAKSURA FINAL FORMzkYEH FINAL FORMzaYEH FINAL FORM",
    "zeISOLATED FORMrEH WITH ALEF MAKSURA ISOLATED FORMzaJEEM INITIAL FORMzgSOLATED FORMzaMEEM INITIAL FORMzgSOLATED FORM",
    "zfWITH JEEM INITIAL FORMzkMEEM INITIAL FORMzaSUPERSCRIPT ALEF INITIAL FORMzaYEH ISOLATED FORMqJALLAJALALOUHOU",
    "rEEM WITH ALEF MAKSURA FINAL FORMzoISOLATED FORMzbHAH INITIAL FORMzgSOLATED FORMzfWITH ALEF MAKSURA FINAL FORM",
    "zkYEH FINAL FORMzbMEEM INITIAL FORMzhSOLATED FORMzgWITH ALEF MAKSURA FINAL FORMzlHAH FINAL FORMzpINITIAL FORM",
    "zlYEH FINAL FORMzbYEH FINAL FORMzfISOLATED FORMqKAF WITH ALEF FINAL FORMzfISOLATED FORMzfMAKSURA FINAL FORMznISOLATED FORM",
    "zaHAH INITIAL FORMzfSOLATED FORMzaJEEM INITIAL FORMzgSOLATED FORMzaKHAH INITIAL FORMzgSOLATED FORMzaLAM FINAL FORM",
    "zeINITIAL FORMzfSOLATED FORMzeMEDIAL FORMzaMEEM FINAL FORMzfINITIAL FORMzgSOLATED FORMzfMEDIAL FORMzfWITH MEEM FINAL FORM",
    "zpINITIAL FORMzkYEH FINAL FORMzaYEH FINAL FORMzeISOLATED FORMrHAH WITH ALEF MAKSURA FINAL FORMzoISOLATED FORM",
    "zbHAH ISOLATED FORMzbJEEM INITIAL FORMzhSOLATED FORMzbMEEM INITIAL FORMzhSOLATED FORMzbYEH FINAL FORMzfISOLATED FORM",
    "qLAM WITH ALEF FINAL FORMzfISOLATED FORMzfMAKSURA FINAL FORMznISOLATED FORMzfWITH HAMZA ABOVE FINAL FORMzwISOLATED FORM",
    "zqBELOW FINAL FORMzwISOLATED FORMzkMADDA ABOVE FINAL FORMzwISOLATED FORMzaHAH INITIAL FORMzfSOLATED FORM",
    "zeWITH ALEF MAKSURA FINAL FORMzjMEEM FINAL FORMzoINITIAL FORMzjYEH FINAL FORMzbEH INITIAL FORMzaJEEM INITIAL FORM",
    "zgSOLATED FORMzfWITH JEEM FINAL FORMzpINITIAL FORMzkMEEM FINAL FORMzpINITIAL FORMzkYEH FINAL FORMzaKHAH INITIAL FORM",
    "zgSOLATED FORMzfWITH MEEM FINAL FORMzpINITIAL FORMzaMEEM FINAL FORMzfINITIAL FORMzgSOLATED FORMzfMEDIAL FORM",
    "zfWITH HAH FINAL FORMzoINITIAL FORMzkYEH FINAL FORMzaYEH FINAL FORMzeISOLATED FORMqMEEM WITH ALEF FINAL FORM",
    "zgMAKSURA ISOLATED FORMzbHAH INITIAL FORMzgSOLATED FORMzfWITH JEEM INITIAL FORMzkMEEM INITIAL FORMzkYEH FINAL FORM",
    "zbJEEM INITIAL FORMzhSOLATED FORMzgWITH HAH INITIAL FORMzlKHAH INITIAL FORMzlMEEM INITIAL FORMzlYEH FINAL FORM",
    "zbKHAH INITIAL FORMzhSOLATED FORMzgWITH JEEM INITIAL FORMzlMEEM INITIAL FORMzlYEH FINAL FORMzbMEEM FINAL FORM",
    "zgINITIAL FORMzhSOLATED FORMzgWITH YEH FINAL FORMzbYEH ISOLATED FORMrOHAMMAD ISOLATED FORM",
    "qNOON WITH ALEF MAKSURA FINAL FORMzoISOLATED FORMzbHAH INITIAL FORMzgSOLATED FORMzfWITH ALEF MAKSURA FINAL FORM",
    "zkMEEM INITIAL FORMzkYEH FINAL FORMzcEH INITIAL FORMzfMEDIAL FORMzbJEEM INITIAL FORMzhSOLATED FORM",
    "zgWITH ALEF MAKSURA FINAL FORMzlHAH FINAL FORMzpINITIAL FORMzlMEEM FINAL FORMzqINITIAL FORMzlYEH FINAL FORM",
    "zbKHAH INITIAL FORMzhSOLATED FORMzbMEEM FINAL FORMzgINITIAL FORMzhSOLATED FORMzgMEDIAL FORMzgWITH ALEF MAKSURA FINAL FORM",
    "zlYEH FINAL FORMzbNOON FINAL FORMzbREH FINAL FORMzbYEH FINAL FORMzfISOLATED FORMzbZAIN FINAL FORM",
    "qQAF WITH ALEF MAKSURA FINAL FORMznISOLATED FORMzaHAH INITIAL FORMzfSOLATED FORMzaMEEM INITIAL FORMzgSOLATED FORM",
    "zfWITH HAH FINAL FORMzoINITIAL FORMzkMEEM FINAL FORMzkYEH FINAL FORMzaYEH FINAL FORMzeISOLATED FORM",
    "sLA USED AS KORANIC STOP SIGN ISOLATED FORMrUDDISA SIRRAHqRADI ALLAAHU ANHzhAAzhUMzjAAziNNAsHIMAHU ALLAAHyM ALLAAH",
    "sSOUL ISOLATED FORMrEH WITH SUPERSCRIPT ALEF ISOLATED FORMqSAD WITH ALEF MAKSURA FINAL FORMznISOLATED FORM",
    "zaHAH INITIAL FORMzfSOLATED FORMzeWITH HAH FINAL FORMznINITIAL FORMzjYEH FINAL FORMzaKHAH INITIAL FORMzaMEEM INITIAL FORM",
    "zgSOLATED FORMzfWITH MEEM FINAL FORMzpINITIAL FORMzaREH FINAL FORMzeISOLATED FORMzaYEH FINAL FORMzeISOLATED FORM",
    "sLAAMUHU ALAYNAAuM ISOLATED FORMtLA ISOLATED FORMwUSED AS KORANIC STOP SIGN ISOLATED FORMvLLAAHU ALAYHI WA-AALIH",
    "yHOU ALAYHE WASALLAMzaU ALAYHI WAAALIHEE WA-SALLAMrEEN WITH ALEF MAKSURA FINAL FORMzoISOLATED FORMzbHAH INITIAL FORM",
    "zgSOLATED FORMzfMEDIAL FORMzfWITH JEEM INITIAL FORMzcEH INITIAL FORMzfMEDIAL FORMzbJEEM INITIAL FORMzhSOLATED FORM",
    "zgMEDIAL FORMzgWITH ALEF MAKSURA FINAL FORMzlHAH INITIAL FORMzbKHAH INITIAL FORMzhSOLATED FORMzgMEDIAL FORM",
    "zgWITH ALEF MAKSURA FINAL FORMzlYEH FINAL FORMzbMEEM INITIAL FORMzhSOLATED FORMzgMEDIAL FORMzgWITH HAH FINAL FORM",
    "zpINITIAL FORMzlJEEM INITIAL FORMzlMEEM FINAL FORMzqINITIAL FORMzbREH FINAL FORMzfISOLATED FORMzbYEH FINAL FORM",
    "zfISOLATED FORMrHADDA WITH DAMMA ISOLATED FORMzjMEDIAL FORMziTAN ISOLATED FORMzdFATHA ISOLATED FORMzjMEDIAL FORM",
    "zdKASRA ISOLATED FORMzjMEDIAL FORMziTAN ISOLATED FORMzdSUPERSCRIPT ALEF ISOLATED FORMsEEN WITH ALEF MAKSURA FINAL FORM",
    "zpISOLATED FORMzcHAH FINAL FORMzgINITIAL FORMzhSOLATED FORMzgMEDIAL FORMzgWITH MEEM FINAL FORMzqINITIAL FORM",
    "zlYEH FINAL FORMzdEH INITIAL FORMzgMEDIAL FORMzcJEEM FINAL FORMzhINITIAL FORMziSOLATED FORMzhMEDIAL FORM",
    "zhWITH YEH FINAL FORMzcKHAH FINAL FORMzhINITIAL FORMziSOLATED FORMzhMEDIAL FORMzcMEEM FINAL FORMzhINITIAL FORM",
    "ziSOLATED FORMzhMEDIAL FORMzhWITH KHAH FINAL FORMzrINITIAL FORMzmMEEM FINAL FORMzrINITIAL FORMzcREH FINAL FORM",
    "zgISOLATED FORMzcYEH FINAL FORMzgISOLATED FORMrUBHAANAHU WA TAAALAAqTABAARAKA WA-TAAALAAsH WITH ALEF MAKSURA FINAL FORM",
    "znISOLATED FORMzaHAH INITIAL FORMzfSOLATED FORMzaMEEM INITIAL FORMzgSOLATED FORMzfMEDIAL FORMzfWITH HAH FINAL FORM",
    "zoINITIAL FORMzkMEEM INITIAL FORMzkYEH FINAL FORMzaYEH FINAL FORMzeISOLATED FORMrEH WITH ALEF MAKSURA FINAL FORM",
    "znISOLATED FORMzaHAH INITIAL FORMzfSOLATED FORMzeWITH JEEM FINAL FORMzoINITIAL FORMzjMEEM INITIAL FORMzbEH INITIAL FORM",
    "zeMEDIAL FORMzaJEEM INITIAL FORMzgSOLATED FORMzfWITH ALEF MAKSURA FINAL FORMzkMEEM INITIAL FORMzkYEH FINAL FORM",
    "zaKHAH INITIAL FORMzgSOLATED FORMzfWITH ALEF MAKSURA FINAL FORMzkMEEM INITIAL FORMzkYEH FINAL FORMzaMEEM FINAL FORM",
    "zfINITIAL FORMzgSOLATED FORMzfMEDIAL FORMzfWITH ALEF MAKSURA FINAL FORMzkHAH INITIAL FORMzkJEEM INITIAL FORM",
    "zkKHAH INITIAL FORMzkYEH FINAL FORMzaNOON FINAL FORMzaREH FINAL FORMzaYEH FINAL FORMzeISOLATED FORMzaZAIN FINAL FORM",
    "rHAL WITH SUPERSCRIPT ALEF ISOLATED FORMsEH WITH ALEF MAKSURA FINAL FORMzoISOLATED FORMzbHEH MEDIAL FORM",
    "zbJEEM ISOLATED FORMzbMEEM FINAL FORMzgINITIAL FORMzhSOLATED FORMzgMEDIAL FORMzbNOON FINAL FORMzbREH FINAL FORM",
    "zbYEH FINAL FORMzfISOLATED FORMzbZAIN FINAL FORMqUIGHUR KIRGHIZ YEH WITH HAMZA ABOVE WITH ALEF MAKSURA FINAL FORM",
    "zzuINITIAL FORMzzvSOLATED FORMqWASALLAM ISOLATED FORMqYEH WITH ALEF MAKSURA FINAL FORMznISOLATED FORMzaHAH INITIAL FORM",
    "zfSOLATED FORMzeWITH YEH FINAL FORMzcMZA ABOVE WITH AE FINAL FORMzuISOLATED FORMzsLEF FINAL FORMzwISOLATED FORM",
    "zwMAKSURA FINAL FORMzzfISOLATED FORMzrE FINAL FORMztINITIAL FORMzuSOLATED FORMzrHAH INITIAL FORMzwSOLATED FORM",
    "zsEH INITIAL FORMzvMEDIAL FORMzrJEEM INITIAL FORMzxSOLATED FORMzrKHAH INITIAL FORMzrMEEM FINAL FORMzwINITIAL FORM",
    "zxSOLATED FORMzwMEDIAL FORMzrNOON FINAL FORMzrOE FINAL FORMzuISOLATED FORMzrREH FINAL FORMzrU FINAL FORMztISOLATED FORM",
    "zrWAW FINAL FORMzvISOLATED FORMzrYEH FINAL FORMzvISOLATED FORMzsU FINAL FORMzuISOLATED FORMzrZAIN FINAL FORM",
    "zbEH INITIAL FORMzeMEDIAL FORMzaJEEM INITIAL FORMzgSOLATED FORMzfWITH YEH FINAL FORMzaKHAH INITIAL FORMzgSOLATED FORM",
    "zaMEEM FINAL FORMzfINITIAL FORMzgSOLATED FORMzfMEDIAL FORMzfWITH MEEM FINAL FORMzpINITIAL FORMzkYEH FINAL FORM",
    "zaNOON FINAL FORMzaREH FINAL FORMzaYEH FINAL FORMzeISOLATED FORMzaZAIN FINAL FORMqZAH WITH MEEM INITIAL FORMzgSOLATED FORM",
    "zfMEDIAL FORMhMADDA WAAJIBmH ABOVEjRK NOON GHUNNAmSIDEWAYS NOON GHUNNAjTHEMATICAL AINvLEFuBEHuDADwLvOTLESS BEHzdFEHzdNOON",
    "zdQAFwUBLE-STRUCK AINzjBEHzjDADzlLzjFEHzjGHAINzjHAHzjJEEMzjKHAHzjLAMzjMEEMzjNOONzjQAFzjREHzjSADzkEENzkHEENzjTAHzkEHzkHAL",
    "zlEHzjWAWzjYEHzjZAHzlINuFEHuGHAINuHAHuINITIAL AINzdBEHzdDADzdFEHzdGHAINzdHAHzeEHzdJEEMzdKAFzeHAHzdLAMzdMEEMzdNOONzdQAF",
    "zdSADzeEENzeHEENzdTEHzeHEHzdYEHuJEEMuKAFvHAHuLAMvOOPED AINzdLEFzcBEHzcDADzeLzcFEHzcGHAINzcHAHzdEHzcJEEMzcKHAHzcLAMzcMEEM",
    "zcNOONzcQAFzcREHzcSADzdEENzdHEENzcTAHzdEHzdHALzeEHzcWAWzcYEHzcZAHzeINuMEEMuNOONuOPERATOR HAH WITH DAL",
    "zeMEEM WITH HAH WITH TATWEELuQAFuREHuSADvEENvHEENvTRETCHED AINzfBEHzfDADzgOTLESS BEHznFEHzfFEHzfGHAINzfHAHzgEHzfJEEMzfKAF",
    "zgHAHzfMEEMzfNOONzfQAFzfSADzgEENzgHEENzfTAHzgEHzgHEHzfYEHzfZAHuTAHwILED AINzcDADzdOTLESS NOONzkQAFzcGHAINzcHAHzcJEEMzcKHAH",
    "zcLAMzcNOONzcQAFzcSADzdEENzdHEENzcYEHvEHvHALwEHuWAWuYEHuZAHwINhNUMBER MARK ABOVEoSIGNhOPEN DAMMATANmFATHATANmKASRATAN",
    "hPERCENT SIGNiIASTRE MARK ABOVEiLACE OF SAJDAHiOETIC VERSE SIGNjUND MARK ABOVEhQUESTION MARKhRAISED ROUND DOTjY",
    "iEVERSED DAMMAiIGHT ARROWHEAD ABOVEzd WITH DOTxBELOWiOUNDED HIGH STOP WITH FILLED CENTREhSEMICOLONiHADDAn ISOLATED FORM",
    "oMEDIAL FORMiIGN ALAYHE ASSALLAMmMISRAmRADI ALLAHOU ANHUoHMATULLAH ALAYHEmSAFHAoLLALLAHOU ALAYHE WASSALLAMoMVAToNAH",
    "nINDHI AMPERSANDtPOSTPOSITION MENmTAKHALLUSiMALL DAMMAnFARSI YEHpTHAnHIGH AINsDOTLESS HEAD OF KHAHsFARSI YEH",
    "tOOTNOTE MARKERsJEEMsLAM ALEFtIGATURE ALEF WITH LAM WITH YEHzcQAF WITH LAM WITH ALEF MAKSURA",
    "zcSAD WITH LAM WITH ALEF MAKSURAsMADDAtEEM INITIAL FORMySOLATED FORMsNOONw WITH KASRAsQAFsROUNDED ZEROsSADtEENtIGN SAFHA",
    "sTAHtHREE DOTSsUPRIGHT RECTANGULAR ZEROsWAWtORD AL-JUZyN-NISFyR-RUByS-SAJDAyTH-THALATHAxQIFxSAHzaKTAxWAQFAsYEH",
    "v BARREE WITH TWO DOTS BELOWsZAHuINnKASRAnLOW MEEMrNOON WITH KASRArSEENrWAWsORD IMAALAxSHMAAMwTASHEELnWAWnYEH",
    "iTART OF RUB EL HIZBiUBSCRIPT ALEFjKUNm BELOWnISOLATED FORMnMEDIAL FORMjPERSCRIPT ALEF MOKHASSASiYMBOL DOT ABOVEsBELOW",
    "qUBLE VERTICAL BAR BELOWoFOUR DOTS ABOVEyBELOWoRINGoSMALL TAH ABOVEyBELOWoTHREE DOTS ABOVEzaBELOW",
    "zaPOINTING DOWNWARDS ABOVEztBELOWpWO DOTS ABOVExBELOWxVERTICALLY ABOVEzjBELOWoWASLA ABOVEhTAIL FRAGMENTjTWEEL",
    "o WITH FATHATAN ABOVEuOVERSTRUCK HAMZAzgWAWuTWO DOTS BELOWiHOUSANDS SEPARATORiONE LOOP ABOVErBELOWmONE DOT ABOVEuBELOW",
    "mTWO DOTS ABOVEvBELOWiRIPLE DOT PUNCTUATION MARKiURNED DAMMA BELOWhVERTICAL TAILiOWEL SIGN DOT BELOW",
    "sINVERTED SMALL V ABOVEsSMALL V ABOVEhWAVY HAMZA BELOWhZWARAKAYg-INDIC CUBE ROOTnDIGIT EIGHTtFIVEuOURtNINEtONEtSEVENuIX",
    "tTHREEuWOtZEROnFOURTH ROOTnPER MILLE SIGNrTEN THOUSAND SIGNcCcIEScMENIAN ABBREVIATION MARKkPOSTROPHEjCAPITAL LETTER AYB",
    "yBENyCAzaHAzbEHzaOyDAyECHzaHzaTyFEHyGHADzaIMyHOyINIyJAzaHEHyKEHzbNyLIWNyMENyNOWyOHyPEHzaIWRyRAzaEHySEHzaHAyTIWNzaOyVEWzaO",
    "yXEHyYIzbWNyZAzaHEkOMMAjDRAM SIGNjEMPHASIS MARKkXCLAMATION MARKjFULL STOPjHYPHENjMODIFIER LETTER LEFT HALF RING",
    "jQUESTION MARKjSMALL LETTER AYBwBENwCAxHAyEHxOwDAwECHxHxTwFEHwGHADxIMwHOwINIwJAxHEHwKEHyNwLIWNwMENwNOWwOHwPEHxIWRwRAxEH",
    "wSEHxHAwTIWNxOxURNED AYBwVEWxOwXEHwYIy WITH STROKEyWNwZAxHEqIGATURE ECH YIWNyMEN ECHzdINIzdNOWzdXEHyVEW NOW",
    "cROW POINTING DOWNWARDS THEN CURVING LEFTWARDSznRIGHTWARDSpRIGHTWARDS THEN CURVING DOWNWARDSzoSOUTH WESTzoUPWARDS",
    "pUPWARDS THEN NORTH WESTfHEAD-SHAPED POINTERcTICULATED LORRYeST PALETTEbSCENDING NODEdIA SYMBOLcSERTIONcTERISKi OPERATORhM",
    "dONISHED FACEdRAEAeONOMICAL SYMBOL FOR URANUScYMPTOTICALLY EQUAL TObTHLETIC SHOEcOM SYMBOLbUBERGINEcSTRAL SIGNcTO RICKSHAW",
    "eMATED TELLER MACHINEfOBILEbVESTAN ABBREVIATION MARKiLETTER AqArNrOqErEqNqOpBEqHEpCEpDEqHEpEqEpFEpGEqGEqHEpHEqMEpIqIpJEpKE",
    "pLEpMEpNEqGErVErYEqNEqYEpOqOpPEpREpSEqHErYEqSHEpTEqHEqTEpUqUpVEpXEqVEqYEpYEqYEpZEqHEcOCADObXEaBABYe ANGELfBOTTLEfCHICK",
    "fSYMBOLcCK OF ENVELOPEfWITH LEFTWARDS ARROW ABOVEe-TILTED SHADOWED WHITE RIGHTWARDS ARROW",
    "eSLANTED SOUTH ARROW WITH HOOKED TAILzgRIZONTAL TAILfPACEdONdTRIAN CAMELcDGERdMINTON RACQUET AND SHUTTLECOCKcGEL",
    "dGAGE CLAIMdUETTE BREADcLINESE ADEG ADEGjCARIK PAMUNGKAHrRERENpSIKIjDIGIT EIGHTpFIVEqOURpNINEpONEpSEVENqIXpTHREEqWOpZERO",
    "jLETTER AIKARArKARAv TEDUNGrRCHAIC JNYArSYURA SASAKqBAs KEMBANGqCAs LACAqDAs MADUuURDA ALPAPRANAzaMAHAPRANAqEF SASAKrKARA",
    "qGAs GORAqHAqIKARAv TEDUNGqJAs JERAqKAs MAHAPRANAsF SASAKrHOT SASAKqLAs LENGAy TEDUNGqMAqNAs RAMBATrGArYAqOKARAv TEDUNGqPA",
    "s KAPALqRAs REPAx TEDUNGqSAs SAGAvPAqTAs LATIKtMURDA MAHAPRANAtTAWArZIR SASAKqUKARAv TEDUNGqVE SASAKqWAqYAqZAL SASAK",
    "jMUSICAL SYMBOL COMBINING BENDEzjENDEPzjGONGzjJEGOGANzjKEMPLIzp WITH JEGOGANznULzp WITH JEGOGANzjTEGEHyDAENGzbINGzbNG",
    "zd GEDEzeSURANGzaENGzbUNGzaINGzaONGzaUNGyLEFT-HAND CLOSED PLAKzsUKzjOPEN PANGzpINGzpUNGyRIGHT-HAND CLOSED TAKzsUK",
    "zkOPEN DAGzqUGjPAMADAp LANTANGmENENGlNTIo LANTANGjSIGN BISAHoCECEKoREREKANoSURANGoULU CANDRAsRICEMjVOWEL SIGN LA LENGA",
    "zd TEDUNGuPEPETza TEDUNGuRA REPAzc TEDUNGuSUKUy ILUTuTALINGzb REPAzg TEDUNGzcTEDUNGvEDUNGuULUx SARIjWINDUdL OF YARN",
    "eET SHOESeOONh-SPOKED ASTERISKfT BOLD SCRIPT XjXk WITH BALLOTrOLD CHECKvSCRIPT XqCHECKqLIGHT XqSCRIPT XqXhSCRIPT XhX",
    "cMUM COLONiMBINING MARK KOQNDONvTUKWENTISjMAgFULL STOPgLETTER AnEEnFAAMAEoEEoOMoUnInKAoENpTpUXoIoOpGHOMpVUUoPAoUoYEEnLA",
    "oEEEEoIoOQoUnMoAoBAApENoEEEEpNoIoOoUnNAoDAAoGApGApKWAENoIoJAEMpEEpUAEoSHAoTEEpUUoUpAEoYInOnPAoEEpUXoHASE-A FIRIvGBIEE FON",
    "wHEUAEGHEUAEzcRAEvKAFAxQwETxUKEUTNDAwPOQwUOQvLAPAQwET KUTwOMMAEwUxAEPvMAEKEUPyMzaBGBIEEzaKPENzaVEUXyNYIySIxNSUAExP PIEET",
    "wBANYIyQwEUNJOMNDEUQwGBASAwON NGGEUAETxOMEUTzaPUQwVEUAENGAMvNAA MFONxQwDA LEERAEWAyANGGEUAETwENwGANGUxGENxKUE MFONzbNZEUM",
    "wIKAwJAMwKAARAExINDIwSHAyIEEwTAPza MFAAzbNTAAxOQPENwYETxIyT MONGKEUAEQwZA MFONxUN MEUTvPA LEERAEWAxAMyRAExMSHAExSHAEwET",
    "wON MFON PIPAEMBAzlGBIEEzaPA NJI PIPAEMBAznGBIEEwUPvROMvSEUNYAMwHINDA PA NJIyRAExOQ NSHUT YUMxUENSHUETyMwISAwONJAMxQxTwUU",
    "vTEUAENyTEUWENwITA MFONwU MAEMBAxAEPvU YUQ NAEwNKNOWNvVEEtB FEExUXvGHEUGHENzdUAEMvKAMwEUAEMyPUQyYEUXwIEEMxQvLAANAE",
    "xM NSHUT NYAMwETwOM NTEUMvMAx NJEUAENAzbUQAwBA MAELEEyARAExEURIxIT MBAAKETxUOQwEUQyT NGGEETwFIYAQxON TEUAEQwONTIEEN",
    "vNDU NJAAwGGAAMyEU MBUyUOQzc LARGExKINDI MVOPxOMwSENxHUETwTIEE SHEUOQwYAEMAExI NTEUMvPARUMwEESHIwITwUNGAAMvSAKEUAEwET TU",
    "wHET NJAQyUAEQTUwIEEwUEvTAAMwU MAEMGBIEEyNSIEEvVEUMvWUAETvYAFU LEERAEWAwEURAEtC BUNGvFUEvGBAYIwHAPyRAEvKAAwEN FATIGUEzaLAW",
    "xTxUKAQyMySEUXzaHEUAEPwPARAQwUOP NKAARAExTvLAMxPwIQwUvMA KEUAERIyNSIEExEMBAySIwBAA CABBAGE-TREEzbPICKETyNYIxEEKEETyRAEyUM",
    "zaXxIyRIEENyTxUAEMyEwGBASAQwIEEwUAEvNANSANAQxQwDAMyPxEUAEREEzaTxIDAxOMBUwGAQxGENyUzaAEN NYAMzaEETzaMzaONxKAQyUE MAEMBAxOM",
    "wJAEMyMxEEEEyUXxUEQwSAxEUAENxHAQxOMxUNyOT NGOMwTAAxENyUNGBAxU MBITwYIR MKPARAQ MEUNwZAxEUMvPENwINxRIEENvRUvSETFONxUXwHIQ",
    "xUEQwUAETvTAASHAEwETxUTEUXwITA YUEyUAEPvVEUAEPENyXvWANGKUOQwUPvYAAwEUQwU MUOMAExMxWOQtD FAAwEUFEUAETvGHAAxEUAEvKET",
    "xUAETMEUNyMyOT MBUAEyPwUxNxOMxQwWAETwYEEvLEEEExTxUAEPyMwIEEwOQwUMvMwAENJETxLEERIwBAAza SEVENxUOwEEEExUNyTwFEUAEzaTxIEExOyN",
    "wGBEUNyIEEyOFUMwONIwUwVOPvNDAMxEEyUXxONwGGAAMzcAEzaPyEUXyUOMyWAENxKAPyEUAEQzbRIyIEEyUNyYEEwIwJAPxEUAEMzaTxIyEExUEQwSHEEyUT",
    "xIEEPzbTxUMwTEEyUMxUUwUwYAMxETxIxUEvPAPwEExUTAEwIPwUQxUTvRAEMwEN MUCHzaOLDwIIvSAPxQwEUAEQwHEEyUAEzaXxIIxOQxUwOTwUAExExU",
    "vTAEwEEEExUAENyNyTwIwOQwUxOTvWAPwUAENvYAEMMAEwENwUOMyPxWOQtE AvFAxQwEEwOMwU CALLyIyREMEDYxEyTvGBETyUXwHAAMAExETyUAEzaNzaX",
    "xOMvIvKETxUAEyXwIwOwPEUXwUETxOPxTvLAAMxPxQwEUAEMwOMxONyTxQwUvMAxEyMxPxQwBEEyUMwENwFEUQwGBAyENwIxEEwONwUAEwVIvNAxE",
    "wDAA MY HOUSEzbSOFTNESSyPxIAQyQxUNwGAxEUREUTxGEEEEzaUAEzdTyUAESHAE NYAMzaPzaRAExKAzaAMIyEUAEMzbXyUMzaPxOPyQxUAEzbTwJAEMLI",
    "xEEza EPOCHyUXwKOMwSHIEEyUEzaOPwTAPxUMwYI BETWEENzaCLEAVERwZAQxUQvOvPA PEOPLEzaLURALxAyMwEEMxUTyXwIxEEQyTwOxONwUxAEyQxExM",
    "vRAExQwEUXwIMGBAvSAAwEExTwHEUAEQxIQxOyQwOMwUAENvTAAyQxEN NTEUMxMxQwENxUyAEQwOOyNxQwUAExMyAEvVEExUAEwOMvWEUXwUExOvYAPwEUAE",
    "zbTyMyXwIEExTwOQ COVERzaSWIMMINGwUAENxEQxNxQtF EEvFOMvKAwENxTwOwPAwUwYEEvLAwIwOQvMwAwBAAxENwEEEEwOvNDAAwGGAxKWAENwIwJAEM",
    "xUAEwSHAwTEEwUxAEwYIvPEExUXwUAEvREExNxUXwIEExIwUvSAMBAwEUXwHIIxOxUwIwUUvTAAxEwETvUvVUEQvWAwUEvYAwOQoIoUAEpEnRAEoEEpNpUX",
    "oIEEpIoUnSAMBAoEUXoHEUXpIIpOpUoIoUUnTAApEoENpToInUnWAoUEnYAoOQoUQgNJAEMLIgQUESTION MARKgSEMICOLONcNANAdJOdK",
    "eNOTE WITH DOLLAR SIGNoEURO SIGNoPOUND SIGNoYEN SIGNcR CHARTeOF SOAPdBER POLEcSEBALLdKETgBALL AND HOOP",
    "dSA VAH COMBINING HIGH TONEy-LOW TONEuLOW TONEx-MID TONEuMID TONEkFULL STOPkLETTER ArBArCErDHIIsOrEsEsNNIrFArGAHsBUrHWAHrI",
    "rJOrKAsPAHrMBErOsOrPArSErTOrUsWUrVUrWAtDDArYEINsIErZOcTdAK CONSONANT SIGN HvNGgLETTER AnBAnCAnDAnGAnHAnInJAnKARO BAnLAnMA",
    "pNDAILING HAyNAySAoBAnNAoDAoGAoORTHERN TAoYAnPApKPAK WAnRAnSAoIMALUNGUN AyGAyHAyLAyMAyPAyRAySAyWAyYAoOUTHERN TAnUnWAnYA",
    "gPANGOLATjONGONANgSIGN TOMPIhYMBOL BINDU JUDULtNA METEKtPANGOLATuINARBORASgVOWEL SIGN EsErIrKARO IwOrOrPAKPAK ErU",
    "s FOR SIMALUNGUN SAdHeTUBdTERYbEACH WITH UMBRELLAdMED ASCENDING MUSICAL NOTEShDESCENDING MUSICAL NOTEShEIGHTH NOTES",
    "hSIXTEENTH NOTESdNSdR FACEeDED PERSONdTING HEARTdVERcCAUSEcDcER MUGdTLEcLdLe PEPPERfSYMBOLfWITH CANCELLATION STROKE",
    "eHOP BELLcNGALI ABBREVIATION SIGNjNJIjU LENGTH MARKiCURRENCY DENOMINATOR SIXTEENrNUMERATOR FOURzcONE",
    "zf LESS THAN THE DENOMINATORzcTHREEzdWOiDIGIT EIGHToFIVEpOURoNINEoONEoSEVENpIXoTHREEpWOoZEROiGANDA MARKiISSHARiLETTER AqA",
    "qIqUpBAqHApCAqHApDAqDArHAqHApEpGAqHApHApIqIpJAqHApKAqHAsNDA TApLApMApNAqGAqNAqYApOpPAqHApRAr WITH LOWER DIAGONAL",
    "xMIDDLE DIAGONALqHAqRApSAqHAqSApTAqHAqTArHApUqUpVEDIC ANUSVARAqOCALIC LyLxRyRpYAqYAiRUPEE MARKoSIGNiSANDHI MARK",
    "jIGN ANUSVARAoVAGRAHAnCANDRABINDUnNUKTAnVIRAMApSARGAiVOWEL SIGN AAuIuUtEtIuItOtUuUtVOCALIC LzdLzcRzdR",
    "dT ARROW POINTING DOWNWARDS THEN NORTH EASTeO BOXdZENE RINGm WITH CIRCLEcT SYMBOLdWEENcVERAGE BOXbHAIKSUKI DANDA",
    "lIGIT EIGHTqFIVErOURqNINEqONEqSEVENrIXqTHREErWOqZEROlOUBLE DANDAkGAP FILLER-1v2kHUNDREDS UNIT MARKkLETTER AsAsIsUrBAsHArCA",
    "sHArDAsDAtHAsHArErGAsHArHArIsIrJAsHArKAsHArLArMArNAsGAsNAsYArOrPAsHArRArSAsHAsSArTAsHAsTAtHArUsUrVAsOCALIC LzaRzbRrYA",
    "kNUMBER EIGHTwYrFIFTYtVEsORTYtURrNINEvTYrONErSEVENwTYsIXuTYrTENsHIRTYtREEsWENTYtOkSIGN ANUSVARAqVAGRAHApCANDRABINDUpVIRAMA",
    "rSARGAkVOWEL SIGN AAwIwUvEvIwIvOvUwUvVOCALIC LzeRzfRkWORD SEPARATORbICYCLEgISTcG REVERSE SOLIDUSeSOLIDUScKINIcLLED CAP",
    "eIARDScOHAZARD SIGNcRDdTHDAY CAKEcSONcTCOIN SIGNdING LIPbLACK BOWTIEgCENTRE WHITE STARhHESS BISHOPs ROTATED NINETY DEGREES",
    "zcTWO HUNDRED SEVENTY DEGREESmEQUIHOPPERw ROTATED NINETY DEGREESmKINGq ROTATED NINETY DEGREESzaTWO HUNDRED SEVENTY DEGREES",
    "nNIGHTs ROTATED FORTY-FIVE DEGREESzcNINETY DEGREESzcONE HUNDRED THIRTY-FIVE DEGREESzcTHREE HUNDRED FIFTEEN DEGREES",
    "zdWO HUNDRED SEVENTY DEGREESzoTWENTY-FIVE DEGREESs-BISHOPtQUEENtROOKmPAWNq ROTATED NINETY DEGREES",
    "zaTWO HUNDRED SEVENTY DEGREESmQUEENr ROTATED NINETY DEGREESzbTWO HUNDRED SEVENTY DEGREESmROOKq ROTATED NINETY DEGREES",
    "zaTWO HUNDRED SEVENTY DEGREESmTURNED BISHOPtKINGuNIGHTtPAWNtQUEENtROOKhIRCLEm FOR RECORDnWITH DOWN ARROWsTWO WHITE DOTS",
    "sWHITE DOT RIGHThLUB SUIThROSS ON SHIELDhURVED DOWNWARDS AND LEFTWARDS ARROWzcRIGHTWARDS ARROW",
    "nLEFTWARDS AND DOWNWARDS ARROWzcUPWARDS ARROWnRIGHTWARDS AND DOWNWARDS ARROWzdUPWARDS ARROWnUPWARDS AND LEFTWARDS ARROW",
    "zaRIGHTWARDS ARROWgDIAMONDn CENTREDoMINUS WHITE XoON CROSSoSUIToWITH DOWN ARROWhOWN POINTING BACKHAND INDEX",
    "k-POINTING DOUBLE TRIANGLEuISOSCELES RIGHT TRIANGLEuSMALL TRIANGLEuTRIANGLEkWARDS EQUILATERAL ARROWHEADhRAUGHTS KINGpMAN",
    "iOPLETgFLAGiORETTEhOLDERiUR POINTED STARgHARD SHELL FLOPPY DISKhEARTl SUITiXAGONhORIZONTAL ELLIPSEiURGLASSgLARGE CIRCLE",
    "mSQUAREhEFT LANE MERGElPOINTING BACKHAND INDEXuINDEXk-POINTING DOUBLE TRIANGLEzk WITH VERTICAL BAR",
    "uISOSCELES RIGHT TRIANGLEuPOINTERuSMALL TRIANGLEuTRIANGLEkWARDS BULLETqEQUILATERAL ARROWHEADhOWER LEFT TRIANGLE",
    "mRIGHT TRIANGLEiZENGEgMEDIUM DIAMONDoOWN-POINTING TRIANGLEzk CENTREDnLEFT-POINTING TRIANGLEzk CENTREDoOZENGE",
    "nRIGHT-POINTING TRIANGLEzl CENTREDnSMALL DIAMONDtLOZENGEtSQUAREoQUAREnUP-POINTING TRIANGLEzi CENTREDhOON LILITHgNIB",
    "gOCTAGONgPARALLELOGRAMhENNANTjTAGONhUSHPINgQUESTION MARK ORNAMENTgRECTANGLEhIGHT POINTING BACKHAND INDEXvINDEX",
    "l-POINTING DOUBLE TRIANGLEzl WITH VERTICAL BARvISOSCELES RIGHT TRIANGLEvPENTAGONwOINTERvSMALL TRIANGLEvTRIANGLE",
    "ze WITH DOUBLE VERTICAL BARlWARDS ARROWwHEADrBULLETrEQUILATERAL ARROWHEADhOSETTEgSAFETY SCISSORShCISSORShHOGI PIECE",
    "hKULL AND CROSSBONEShLIGHTLY SMALL CIRCLEvSQUAREhMALL DIAMONDmLOZENGEmSQUAREnTARiILING FACEhNOWMANhPADE SUIThQUAREm BUTTON",
    "nCENTREDnFOR STOPhTARhUN WITH RAYSgTELEPHONEhINY DIAMONDlLOZENGElSQUAREhOUCHTONE TELEPHONEhRUCKhWO-WAY LEFT WAY TRAFFIC",
    "gUNIVERSAL RECYCLING SYMBOLhP POINTING BACKHAND INDEXi-POINTING DOUBLE TRIANGLEsISOSCELES RIGHT TRIANGLEsSMALL TRIANGLE",
    "sTRIANGLEiPER LEFT TRIANGLEmRIGHT TRIANGLEiWARDS EQUILATERAL ARROWHEADgVERTICAL ELLIPSEpRECTANGLEjY SMALL DIAMONDrLOZENGE",
    "rSQUAREf-FEATHERED NORTH EAST ARROWqRIGHTWARDS ARROWqSOUTH EAST ARROWgLETTER CAPITAL CvHvIvRvZdNK SYMBOLcOCK SEXTANT-1p2q3",
    "r4s5s6r5s6r6q4r5s6r6q5r6q6p3q4r5s6r6q56q6p4q5r6q6p5q6p6o2p3q4r5s6r6q5r6q6p4q5r6p5q6p6o3p4q5r6q6p5q6p6o4p5q6p6o5p6o6dSSOM",
    "dWFISHcUE BOOKfHEARTeBERRIESbOARcLD EIGHT SPOKED ASTERISKfFIVE SPOKED ASTERISKfGREEK CROSSfSALTIREgIX SPOKED ASTERISK",
    "fWHITE CIRCLElSQUAREcMdBcNEcOKeMARKi TABSeSdMERANGcPOMOFO FINAL LETTER GwHwKwPwTjLETTER ArHrIsNNrMrNsGsNrUsNNqBrUqCrHqDqE",
    "rErHrIrNsGsNrRqFqGrHrNrUrWqHqIrHrMrNNtNrRrUqJrIqKrWqLrHqMqNrGsGrNqOr WITH DOT ABOVErErMrNGsNrOrUqPqQqRqSrHqTqUrNNqVqXqZrH",
    "rIrYcTTLE WITH POPPING CORKeOM ARC ANTICLOCKWISE ARROWhCURLY BRACKEThHALF BLACK CIRCLEmINTEGRALmLEFT PARENTHESIS",
    "mRIGHT PARENTHESIShLEFT CORNERnROPmHALF BRACKEThPARENTHESIShRIGHT CORNERoROPnHALF BRACKEThSQUARE BRACKET",
    "v OVER TOP SQUARE BRACKEThTORTOISE SHELL BRACKETcUQUETh OF FLOWERScW AND ARROWdL OF HYGIEIAfWITH SPOONeINGdTIE",
    "g WITH LEFT HALF BLACKmRIGHT HALF BLACKcX DRAWINGS DOUBLE DOWN AND HORIZONTALzeLEFTzeRIGHTuHORIZONTALuUP AND HORIZONTAL",
    "zcLEFTzcRIGHTuVERTICALzd AND HORIZONTALziLEFTziRIGHTpWN DOUBLE AND HORIZONTAL SINGLEzeLEFT SINGLEzeRIGHT SINGLE",
    "sHEAVY AND HORIZONTAL LIGHTzdLEFT LIGHTziUP LIGHTzdRIGHT LIGHTzjUP LIGHTzdUP HORIZONTAL LIGHTsLIGHT AND HORIZONTAL HEAVY",
    "zdLEFT HEAVYziUP HEAVYzdRIGHT HEAVYzjUP HEAVYzdUP HORIZONTAL HEAVYsSINGLE AND HORIZONTAL DOUBLEzeLEFT DOUBLEzeRIGHT DOUBLE",
    "nHEAVY DOUBLE DASH HORIZONTALzgVERTICALvWNx AND HORIZONTALzdLEFTzdRIGHTtHORIZONTALtLEFTx AND LIGHT RIGHT",
    "tQUADRUPLE DASH HORIZONTALzjVERTICALtRIGHTtTRIPLE DASH HORIZONTALzgVERTICALtUPv AND HORIZONTALzbLEFTzcIGHT DOWNzbRIGHT",
    "tVERTICALzc AND HORIZONTALzhLEFTzhRIGHTnLEFT DOWN HEAVY AND RIGHT UP LIGHTsHEAVY AND RIGHT DOWN LIGHTzjUP LIGHT",
    "zjVERTICAL LIGHTsLIGHT AND RIGHT DOWN HEAVYzjUP HEAVYzjVERTICAL HEAVYsUP HEAVY AND RIGHT DOWN LIGHToIGHT ARC DOWN AND LEFT",
    "zhRIGHTxUP AND LEFTzfRIGHTtDIAGONAL CROSSzdDIAMONDzdMIDDLE LEFT TO LOWER CENTREzzf TO MIDDLE RIGHT",
    "zsUPPER CENTRE TO MIDDLE RIGHTzzv TO LOWER CENTREzkRIGHT TO LOWER CENTREztUPPER CENTRE TO MIDDLE LEFT TO LOWER CENTRE",
    "zdUPPER CENTRE TO MIDDLE LEFTzzf AND MIDDLE RIGHT TO LOWER CENTREzzgTO LOWER CENTREzzv TO MIDDLE RIGHTzzbRIGHT",
    "zzg AND MIDDLE LEFT TO LOWER CENTREzzhTO LOWER CENTREzzw TO MIDDLE LEFTzjLEFT TO LOWER RIGHTzjRIGHT TO LOWER LEFT",
    "uOUBLE DASH HORIZONTALzgVERTICALvWNx AND HORIZONTALzdLEFTzdRIGHTtHORIZONTALze WITH VERTICAL STROKEtLEFTx AND HEAVY RIGHT",
    "tQUADRUPLE DASH HORIZONTALzjVERTICALtRIGHTtTRIPLE DASH HORIZONTALzgVERTICALtUPv AND HEAVY DOWNzcORIZONTALzbLEFTzbRIGHT",
    "tVERTICALzc AND HORIZONTALzhLEFTzhRIGHTnRIGHT DOWN HEAVY AND LEFT UP LIGHTtHEAVY AND LEFT DOWN LIGHTzjUP LIGHT",
    "zjVERTICAL LIGHTtLIGHT AND LEFT DOWN HEAVYzjUP HEAVYzjVERTICAL HEAVYtUP HEAVY AND LEFT DOWN LIGHT",
    "nUP DOUBLE AND HORIZONTAL SINGLEzcLEFT SINGLEzcRIGHT SINGLEqHEAVY AND DOWN HORIZONTAL LIGHTzbHORIZONTAL LIGHT",
    "zbLEFT DOWN LIGHTzgLIGHTzbRIGHT DOWN LIGHTzhLIGHTqLIGHT AND DOWN HORIZONTAL HEAVYzbHORIZONTAL HEAVYzbLEFT DOWN HEAVY",
    "zgHEAVYzbRIGHT DOWN HEAVYzhHEAVYqSINGLE AND HORIZONTAL DOUBLEzcLEFT DOUBLEzcRIGHT DOUBLE",
    "nVERTICAL DOUBLE AND HORIZONTAL SINGLEziLEFT SINGLEziRIGHT SINGLEwHEAVY AND HORIZONTAL LIGHTzhLEFT LIGHTzhRIGHT LIGHT",
    "wLIGHT AND HORIZONTAL HEAVYzhLEFT HEAVYzhRIGHT HEAVYwSINGLE AND HORIZONTAL DOUBLEziLEFT DOUBLEziRIGHT DOUBLEdING GLOVEcY",
    "dS SYMBOLbPHbRAHMI DANDAiIGIT EIGHTnFIVEoOURnNINEnONEnSEVENoIXnTHREEoWOnZEROiOUBLE DANDAhLETTER ApApIpUoBApHAoCApHAoDApDA",
    "qHApHAoEoGApHAoHAoIpIoJApHAoKApHAoLApLAoMAoNApGApNApYAoOpLD TAMIL LLAzbLAyNNNAyRRAySHORT EzfOoPApHAoRAoSApHApSAoTApHApTA",
    "qHAoUpUoVApOCALIC LxLwRxRoYAhNUMBER EIGHTtYoFIFTYqVEpORTYqURoJOINERoNINEsTYoONEr HUNDREDsTHOUSANDoSEVENtTYpIXrTYoTENpHIRTY",
    "qREEpWENTYqOhPUNCTUATION CRESCENT BARtDOTvUBLE DOTtLINEuOTUShSIGN ANUSVARAmCANDRABINDUmJIHVAMULIYAmOLD TAMIL VIRAMA",
    "mUPADHMANIYAmVISARGAhVIRAMAiOWEL SIGN AAtItUsBHATTIPROLU AAsEsItIsOtLD TAMIL SHORT EzjOsUtUsVOCALIC LzcLzbRzcR",
    "dILLE PATTERN BLANKqDOTS-1w2x3y4za5zb6zc7zd8zc8zb7zc8zb8za6zb7zc8zb8za7zb8za8y5za6zb7zc8zb8za7zb8za8y6za7zb8za8y7za8y8x4y5",
    "za6zb7zc8zb8za7zb8za8y6za7zb8za8y7za8y8x5y6za7zb8za8y7za8y8x6y7za8y8x7y8x8w3x4y5za6zb7zc8zb8za7zb8za8y6za7zb8za8y7za8y8x5",
    "y6za7zb8za8y7za8y8x6y7za8y8x7y8x8w4x5y6za7zb8za8y7za8y8x6y7za8y8x7y8x8w5x6y7za8y8x7y8x8w6x7y8x8w7x8w8v2w3x4y5za6zb7zc8zb8",
    "za7zb8za8y6za7zb8za8y7za8y8x5y6za7zb8za8y7za8y8x6y7za8y8x7y8x8w4x5y6za7zb8za8y7za8y8x6y7za8y8x7y8x8w5x6y7za8y8x7y8x8w6x7y8",
    "x8w7x8w8v3w4x5y6za7zb8za8y7za8y8x6y7za8y8x7y8x8w5x6y7za8y8x7y8x8w6x7y8x8w7x8w8v4w5x6y7za8y8x7y8x8w6x7y8x8w7x8w8v5w6x7y8x8",
    "w7x8w8v6w7x8w8v7w8v8eNcEADeK PERMITTED HEREeST-FEEDINGdVEcICKdDE WITH VEILeGE AT NIGHTdEFCASEfScOCCOLIdKEN BAR",
    "hCIRCLE WITH NORTHWEST ARROWhHEARTdOMdWN HEARTbSbUBBLE TEAgScCKETcGdINESE END OF SECTIONjLETTER AqBAqCAqDAqGAqHAqJAqKAqLA",
    "qMArPAqNArGAsKArRArYAsCAqPAqRAqSAqTAqVAqYAjPALLAWAjVOWEL SIGN AEuEuIuOuUcHID LETTER AnBAnDAnGAnHAnInKAnLAnMAnNAoGAnPAnRA",
    "nSAnTAnUnWAnYAgVOWEL SIGN IrUcILDING CONSTRUCTIONcLLETg OPERATOReHORNi WITH SOUND WAVESeSEYEcRRITOcSd STOPdT IN SILHOUETTE",
    "eS IN SILHOUETTEcTTERgFLYbYTE ORDER MARKcZANTINE MUSICAL SYMBOL AGOGI ARGIzjOTERIzgGORGIzkOTERIzgMESIziTRIAzgPOLI ARGI",
    "zlGORGIzbNATRICHISMAzcTIKENOKYLISMAziMAzbPESO EKFONITIKONzhXO NEOzcLIzcODERMA ARCHAIONzjNEOzdSTROFOI SYNDESMOS NEO",
    "zlTELOUS ICHIMATOSzjSzk DIPLIzlNEOzdTHEMAzbRGONzeSYNTHETONzcKTIKO DIziGAziKEziNIziPAziVOUziZOzaCHAMILIzgON",
    "zcOREVMA ARCHAIONzjNEOzcROA KLITONzgSPATHIzgZYGOSzaDASEIAzbIARGONzdSTOLI APLI MEGALIzpIKRIzjDIPLIzjTHESEOS",
    "zcESIS APLI DYO DODEKATAzhDIGRAMMOS EX DODEKATAzhMONOGRAMMOS TESSERA DODEKATAzhTETARTIMORIONziRIGRAMMOS OKTO DODEKATA",
    "zkTIMORIONzcFTOGGOS OUzcGORGONzi PARESTIGMENON ARISTERA ANOzzhKATOzxDEXIAzdRAMMA GGzcPLIzf ARCHAIONzbYOzaEKSTREPTON",
    "zbLAFRONzbNARXIS KAI FTHORA VOUzcDOFONONzbPEGERMAzbTERON ARGOSYNTHETONzhPARAKALESMAzbXO EKFONITIKONzaFANEROSIS DIFONIAS",
    "zkMONOFONIASzkTETRAFONIASzbHTORA SKLIRON CHROMA VASISzbTHORA ARCHAIONzp DEYTEROU ICHOUzhDIATONIKI DIzrKEzrNANAzsI ANO",
    "zuKATOzrPAzrZOzhENARMONIOS ANTIFONIAzhI YFESIS TETARTIMORIONzhMALAKON CHROMA DIFONIASzwMONOFONIASzhNAOS ICHOSziENANO",
    "zhSKLIRON CHROMA SYNAFIzwVASISzpDIATONON DIzaGENIKI DIESISzhYFESISzbORGON ARCHAIONzhNEO ANOzlKATOzhPARESTIGMENON ARISTERA",
    "zvDEXIAzfSYNTHETONzdTHMIKON N APLOUNznDIPLOUNzbRONTHISMATAzaICHADINzbMIDIARGONzdFONONzeTHORAziONzbSAKIA TELOUS ICHIMATOS",
    "zcON ARCHAIONzfNEOzaKATAVA TROMIKONzgSMAzdHISTIzbENTIMA ARCHAIONziNEO ANOzmKATOzmMESOzhTAzj ARCHAIONzkNEO ANOzoKATOzoMESO",
    "zbLASMAzg ANOzhKATOzbONTEVMAzi ALLOzcRONISzcUFISMAzbRATIMA ALLOzjRCHAIONziNEOzhTAzgOKOUFISMAzhYPORROONzcEMASTIzbYLISMA",
    "zaLEIMMA DYO CHRONONzhENOS CHRONOUzhIMISEOS CHRONOUzhTESSARON CHRONONziRION CHRONONzcMOIzbYGISMA",
    "zaMARTYRIA ALLI DEYTEROS ICHOSzoPROTOS ICHOSzjDEYTEROS ICHOSzjLEGETOS ICHOSzjPLAGIOS ICHOSzrTETARTOS ICHOSzkROTOS ICHOS",
    "zoVARYS ICHOSzjTETARTOS ICHOSzsLEGETOS ICHOSzkRIFONIASzmTOS ICHOSzjVARYS ICHOSzbIKRON ISONzaNANAzaOLIGON ARCHAIONzhNEO",
    "zbMALONzbXEIA DIPLIzgEKFONITIKONzgNEOzfI ARCHAIONzbYRANISMA ARCHAIONzkNEOzaPARAKALESMA ARCHAIONzmNEOzfLITIKIzl ARCHAION",
    "zmNEOzdICHONzbELASTONzi NEOzcRISPOMENIzcTASMAzfTIzgOKOUFISMAzbIASMA ARCHAIONzhNEOzbSIFISTOLYGISMAziNzj NEOziPARAKALESMA",
    "ziSYNAGMAzdLIzeONzaRAPISMAzbEVMAzaSAXIMATAzbEISMAzg NEOzbIMANSIS ARSEOSzp DISIMOUzqTETRASIMOUzrRISIMOUzjTHESEOSzq DISIMOU",
    "zrTETRASIMOUzsRISIMOUzbTAVROSzh APODEXIAzcIGMAzcRAGGISMATAzbYNAGMA ARCHAIONziMETA STAVROUziNEOzdEVMAzcRMAzfTIKIzaTELEIA",
    "zcSSERAzcTRAPLIzbHEMAzf APLOUNzfTISMOS ESOznXOzdS KAI APOTHESzcITAzbINAGMAzbRIAzdGORGONzdPLIzcOMIKOLYGISMAzhN ALLO",
    "zkRCHAIONzjNEOzhPARAKALESMAziSIFISTONzhSYNAGMAzaVAREIA DIPLIzhEKFONITIKONzhNEOzgI ARCHAIONzcTHYzaXIRON KLASMAzaYFEN ANO",
    "zfKATOzdSIS APLI DYO DODEKATAzhDIGRAMMOS EX DODEKATAzhMONOGRAMMOS TESSERA DODEKATAzhTRIGRAMMOS OKTO DODEKATAzkTIMORION",
    "zbPOKRISISzj DIPLIzdRROIzcSILIaCACTUScDA UNAdUCEUScLENDARdL ME HANDcMERAg WITH FLASHdPINGcNdADIAN SYLLABICS AuAvIvYuI",
    "vVILIK BuNuTHAPASCAN MzfSuYtBEAVER DENE LzgRuIBLE-CREE YuLACKFOOT AzeEzeIzeKAzfEzfIzfOzeNAzfEzfIzfOzeOzeSzeWzfAzfEzfIzfOtC",
    "uAvAwIvRRIER CHAzeEzfEzeIzeOzeUzcDEEzeNE GEEzfTAL SzdIzdLAzeEzfEzeIzeOzeUzdZAzeEzfEzeIzeOzeUzcEEzcGAzeAzdEzeEzdHAzeEzfEzeI",
    "zeOzeUzdIzdOzdUzdWAzeUzcHzdEEzdIzdWAzeEzfEzeIzeOzeUzcIzdNITIAL ZzcJAzdEzeEzdIzdJAzeEzfEzeIzeOzeUzdOzdUzdWAzcKHAzeEzfEzeI",
    "zeOzeUzdKzeAzeEzfEzeIzeOzeUzcLAzdEzeEzdHAzeEzfEzeIzeOzeUzdIzdOzdUzcMAzdEzeEzdIzdOzdUzcNAzdEzeEzdGzdIzdOzdUzcPzdAzdEzeEzdI",
    "zdOzdUzcRAzdEzeEzdIzdOzdUzcSAzdEzeEzdHzeAzeEzfEzeIzeOzeUzdIzdOzdUzcTHAzeEzfEzeIzeOzeUzdLAzeEzfEzeHAzfEzgEzfIzfOzfUzeIzeO",
    "zeUzdSAzeEzfEzeIzeOzeUzdTAzeEzfEzeIzeOzeSAzfEzgEzfIzfOzfUzeUzcWAzdEzeEzdIzdOzdUzcYAzdEzeEzdIzdOzdUzcZzdAzdEzeEzdIzdOzdUuE",
    "uHI SIGNuIvIuOvOuWAwAvEvIwIvOwOtEuASTERN WuNtFuAvAwIuEuIvIvNAL ACUTEzaBOTTOM HALF RINGzaDOUBLE ACUTE",
    "zhSHORT VERTICAL STROKESzcWN TACKzaGRAVEzaMIDDLE DOTzaPLUSzaRAISED DOTzbIGHT HALF RINGzcNGzaSHORT HORIZONTAL STROKE",
    "zbMALL RINGzaTOP HALF RINGuOvOuULL STOPuWAAtGLOTTAL STOPtHKuYPHENtIuIuNtKuAvAwIvYuEuIvIuOvOuWvAwAwYvEvIwIvOwOtLuAvAwIvYuE",
    "uHvAwAvIwIvOwOuIvIuOvOuWAwAvEvIwIvOwOtMuAvAwIvYuEvDIAL LzbRuHuIvIuOvOwSE-CREE SKuWAwAvEvIwIvOwOtNu-CREE THEzdIzeIuAvAwI",
    "vSKAPI CWAAzcKWAAzcMWAAzcNWAAzcS-WzdCWAzdKWzfAzdPWAzdTWAzdWAAzcTWAAzcWAAzdOOzcYWAAvTTILIK HAzfAzeIzfIzeOzfOzdSHRAzhAzgIzhI",
    "zgOzhOvYuEuGvAwAxIwIvIwIvOwOuHuIvIuNGwAxAwIxIwOxOuOvOvYuUNAVIK HzdAzeAzdEzdIzeIzdOzeOyUT HuWAwAvEvIwIvOwOtOuJIBWAY CzcKzcM",
    "zcNzdWIzfIzeOzfOzcPzcSzdHzcTuNuOuYtPuAvAwIvYuEuIvIuOvOvYuWAwAvEvIwIvOwOwYtQuAvAwIvIuIvIuOvOtRu-CREE REzcWEuAvAwIvYuEuIvIuO",
    "vOuWAwAvEEvIwIvOwOtSuAvAwIvYwISI HAzcEzcIzcOzdOzbJIzcUzdUzbMzbSHAzdEzdIzdOzeOzdWEzbTHzbYIuEuHvAwAwYvEvIwIvOwOwYvWAxAwEwIxI",
    "wOxOxYuIvIuOvOvUTH-SLAVEY KAHziEHziIHziOHvYuPAvEvIvOuWvAwAvEvIwIvOwOtTuAvAwIvYuEuHv-CREE THzeAzfAzeEzeIzfIzeOzfOvAwAvEvIwI",
    "vOwOvWAxAwEuIvIuLHAwEwIwOxOwWEuOvOuTAvEvHwAxAwEwIwOxOwWEvIvOuWAwAvEvIwIvOwOuYAvEvIvOtWAvAvYuEvST-CREE CWAzhAzgEzgIzhIzgO",
    "zhOzeFWAAzeKWAzhAzgEzgIzhIzgOzhOzeLzfAzgAzfEzfOzgOzfWAzhAzgEzgIzhIzgOzhOzeMzfWAzhAzgEzgIzhIzgOzhOzeNWAzhAzgEzePzfWAzhAzgE",
    "zgIzhIzgOzhOzeRzfAzfEzfIzfOzfWAAzeSHWAziAzhEzhIziIzhOziOzfWAzhAzgEzgIzhIzgOzhOzeTHWAAzfWAzhAzgEzgIzhIzgOzhOzeWAzgAzfEzfI",
    "zgIzfOzgOzeYzfWAzhAzgEzgIzhIzgOzhOxERN WuIvIuOvOwDS-CREE FINAL THzfTHzhAzhEzhIzhOzhWAzjAziEEziIzjIziOzjOtYu-CREE COOzbKOO",
    "zbLOOzbMOOzbNOOzbOOzbPOOzcWAAzbSOOzbTOOzbWzbYOOuAvAwIvYuEuIvIuOvOvYuWAwAvEvIwIvOwOdCELg CHARACTERhTAGgLATION XfRdDLEeY",
    "dNED FOODdOEcPITULUMdRICORNcR SLIDINGdD FILE BOXfINDEXk DIVIDERSdE OFeTf INSERTION POINTdIAN LETTER Ap2oBoC-18q39oDp2oEp2",
    "oGp2oIpIoKp2oLpDq2oMpBq2q3q4oNpDpGpNoOoPp2oQoRpRoSpHq2pSpTq2oTpTq2oUpUqUr2r3rUoXdONeUSEL HORSEdP STREAMEReENTRY SAW",
    "dRIAGE RETURNeOTcSTLEcTd FACEi WITH TEARS OF JOYoWRY SMILEcUCASIAN ALBANIAN CITATION MARKtLETTER ALTzcORzbBETzbCARzdYNzcHA",
    "zeTzdIzdOYzcYAWzeYzbDATzcYANzcZAYzdYAYzbEBzcYNzbFAMzbGHEYSzcIMzbHEYTzbINYAzcRBzcWNzbJAYNzcHOXzbKARzcIWzbLANzcYITzbMAQ",
    "zbNOWCzbONzbPENzcIWRzbQARzdYzbRATzbSEYKzcHAzeKzdOYzbTASzcIWRzcYAYzbVEYZzbXEYNzbYAYDzcOWDzbZARLzcHAzdILdTION SIGNbCH",
    "bEDI SIGNeLLAcLTIC CROSScNT SIGNeRE LINE SYMBOLgLINE LOW LINElOVERLINEcRESbGJbHAINSeRdKMA AU MARKhDANDAiIGIT EIGHTnFIVE",
    "oOURnNINEnONEnSEVENoIXnTHREEoWOnZEROiOUBLE DANDAhLETTER AAoBAApHAAoCAApHAAoDAApDAAqHAApHAAoEoGAApHAAoHAAoIoJAApHAAoKAApHAA",
    "oLAApHAAoMAAoNAApGAApNAApYAAoPAApHAAoRAAoSAAoTAApHAApTAAqHAAoUoVAAoWAAoYAApYAAhMAAYYAAhO MARKhQUESTION MARKhSECTION MARK",
    "iIGN ANUSVARAmCANDRABINDUmVISARGAhVIRAMAiOWEL SIGN AtAtItUsEtIsItIsOtIsUtUdM CONSONANT SIGN FINAL HzbMzbNGuLAuRAuWAuYA",
    "fDIGIT EIGHTlFIVEmOURlNINElONElSEVENmIXlTHREEmWOlZEROfLETTER AnImBAnBAnHAmCHAoHAmDAnDAnHAmEmFINAL CHsGsKsLsNtGsPsRsSSsTsY",
    "mGAnHAmHAmImJAnHAmKAnHAmLAmMAnUEmNAnGAoUEnHAoJAoUEnUEmOmPAnHAnPAmRAmSAnSAmTAnHAmUmVAmYAfPUNCTUATION DANDAsOUBLE DANDA",
    "rSPIRALrTRIPLE DANDAfVOWEL SIGN AArIrUqEIqIrIqOrEqUrEdRACTER TABULATIONu SETvWITH JUSTIFICATIONlIEeT WITH DOWNWARDS TREND",
    "lUPWARDS TRENDy AND YEN SIGNcECK MARKfER BOARDn FILLdERING MEGAPHONEeSE WEDGEdQUERED FLAGdROKEE LETTER AqDArErIrLArOrUrVqE",
    "qGArErIrOrUrVqHArErIrNArOrUrVqIqKAqLArErIrOrUrVqMArErIrOrUrVqNAsHrErIrOrUrVqOqQUAsEsIsOsUsVqSrArErIrOrUrVqTArErIrLAsEsIsO",
    "sUsVrSAsEsIsOsUsVqUqVqWArErIrOrUrVqYArErIrOrUrVjSMALL LETTER AwDAxExIxLAxOxUxVwEwGAxExIxOxUxVwHAxExIxNAxOxUxVwIwKAwLAxExI",
    "xOxUxVwMAxExIxOxUxVwNAyHxExIxOxUxVwOwQUAyEyIyOyUyVwSxAxExIxOxUxVwTAxExIxLAyEyIyOyUyVxSAyEyIyOyUyVwUwVwWAxExIxOxUxVwYAxExI",
    "xOxUxVeRIESfY BLOSSOMdSTNUTcI RHOdCKENdLDfREN CROSSINGdPMUNKdRONcOCOLATE BARdPSTICKSdRASMIAN LETTER ALEPHtYINsBETH",
    "sCURLED WAWsDALETHsGIMELsHEuTHsKAPHsLAMEDHsMEMsNUNsPEsRESHsSAMEKHtHINtMALL ALEPHsTAWsWAWsYODHsZAYINlNUMBER FOURsONE",
    "v HUNDREDsTENtHREEtWENTYuOcRISTMAS TREEcURCHbINEMAcRCLE DIVIDED BY HORIZONTAL BAR AND TOP HALF DIVIDED BY VERTICAL BAR",
    "hWITH ALL BUT UPPER LEFT QUADRANT BLACKmHORIZONTAL BARmLEFT HALF BLACKnOWER HALF BLACKmRIGHT HALF BLACK",
    "mSMALL CIRCLE TO THE RIGHTnUPERIMPOSED XmTWO HORIZONTAL STROKES TO THE RIGHTmUPPER HALF BLACKsRIGHT QUADRANT BLACK",
    "mVERTICAL FILLgD ANTICLOCKWISE ARROWv-ROTATED DIVISION SIGNjSTERISK OPERATORiBOLD XjULLETiC WITH OVERLAID BACKSLASHjCjD",
    "jROSS FORMEEu WITH FOUR DOTSzbTWO DOTSoPOMMEEnING LANESiDASHjIGIT EIGHToFIVEpOURoNINEoONEoSEVENpIXoTHREEpWOoZERO",
    "kVISION SIGNsLASHjOLLAR SIGN WITH OVERLAID BACKSLASHkT OPERATORiEQUALSiGREATER-THANiHANGUL CHIEUCHw AqIEUCu ApHIEUHu A",
    "pIEUNGu AvUpKHIEUKHw AqIYEOKv ApMIEUMu ApNIEUNu ApPHIEUPHw AqIEUPu ApRIEULu ApSIOSt ApTHIEUTHw AqIKEUTv A",
    "jEAVY WHITE RIGHTWARDS ARROWjORIZONTAL BAR WITH NOTCHjUMAN FIGUREiIDEOGRAPH ACCEPTtDVANTAGEtLLIANCEtTTENTIONsCENTRE",
    "tONGRATULATIONuPYuRRECTsEARTHtIGHTtNTERPRISEtXCELLENTsFEMALEtINANCIALuREuVEtOURsHAVEtIGHsITEMsKINDERGARTENtOTOsLABORtEFT",
    "tOWsMALEtEDICINEuTALtOONsNAMEtIGHTuNEsONEsPRINTsQUESTIONsRELIGIONuSOURCEvTtIGHTsSCHOOLtECRETuVENtIXtOCIETYtPECIALtTOCKuUDY",
    "tUITABLEuNuPERVISEsTENtHREEtWOsWATERtOODjNFORMATION SOURCEjTALIC LATIN CAPITAL LETTER CzlRiKATAKANA ArErHAsEsIsOsUrIrKAsE",
    "sIsOsUrMAsEsIsOsUrNAsEsIsOsUrOrRAsEsIsOsUrSAsEsIsOsUrTAsEsIsOsUrUrWAsEsIsOrYAsOsUjOREAN CHARACTER CHAMKOzaJUEUI",
    "iLATIN CAPITAL LETTER AzeBzeCzeDzeEzeFzeGzeHzeIzeJzeKzeLzeMzeNzeOzePzeQzeRzeSzeTzeUzeVzeWzeXzeYzeZoSMALL LETTER AzcBzcCzcD",
    "zcEzcFzcGzcHzcIzcJzcKzcLzcMzcNzcOzcPzcQzcRzcSzcTzcUzcVzcWzcXzcYzcZjESS-THANiMINUS",
    "jULTIPLICATION SIGN WITH CIRCUMFLEX ACCENTiNUMBER EIGHTEENuY ON BLACK SQUAREqLEVENpFIFTEENtYu ON BLACK SQUAREqORTYu EIGHT",
    "vFIVEwOURvNINEvON BLACK SQUARExEvSEVENwIXvTHREEwWOrURTEENpNINETEENpSEVENTEENvY ON BLACK SQUAREqIXTEENtY ON BLACK SQUARE",
    "pTENs ON BLACK SQUAREqHIRTEENuYv EIGHTwFIVExOURwNINEwON BLACK SQUAREyEwSEVENxIXwTHREExWOqWELVEsNTYv EIGHTwFIVExOURwNINE",
    "wON BLACK SQUAREyEwSEVENxIXwTHREExWOiOPEN CENTRE EIGHT POINTED STARiPARALLELjERPENDICULARjLUSjOSTAL MARKiREVERSE SOLIDUS",
    "jING OPERATORiSQUAREiTIMESjRIANGLEq DOWNiVERTICAL BARiWHITE BULLEToSTARjZiXiZERO WITH SLASHeULATION FUNCTIONfMFLEX ACCENT",
    "fS TENTcTYSCAPEj AT DUSKbJK COMPATIBILITY IDEOGRAPH-2F800zh1zh2zh3zh4zh5zh6zh7zh8zh9zhAzhBzhCzhDzhEzhFzg10zh1zh2zh3zh4zh5",
    "zh6zh7zh8zh9zhAzhBzhCzhDzhEzhFzg20zh1zh2zh3zh4zh5zh6zh7zh8zh9zhAzhBzhCzhDzhEzhFzg30zh1zh2zh3zh4zh5zh6zh7zh8zh9zhAzhBzhCzhD",
    "zhEzhFzg40zh1zh2zh3zh4zh5zh6zh7zh8zh9zhAzhBzhCzhDzhEzhFzg50zh1zh2zh3zh4zh5zh6zh7zh8zh9zhAzhBzhCzhDzhEzhFzg60zh1zh2zh3zh4",
    "zh5zh6zh7zh8zh9zhAzhBzhCzhDzhEzhFzg70zh1zh2zh3zh4zh5zh6zh7zh8zh9zhAzhBzhCzhDzhEzhFzg80zh1zh2zh3zh4zh5zh6zh7zh8zh9zhAzhBzhC",
    "zhDzhEzhFzg90zh1zh2zh3zh4zh5zh6zh7zh8zh9zhAzhBzhCzhDzhEzhFzgA0zh1zh2zh3zh4zh5zh6zh7zh8zh9zhAzhBzhCzhDzhEzhFzgB0zh1zh2zh3",
    "zh4zh5zh6zh7zh8zh9zhAzhBzhCzhDzhEzhFzgC0zh1zh2zh3zh4zh5zh6zh7zh8zh9zhAzhBzhCzhDzhEzhFzgD0zh1zh2zh3zh4zh5zh6zh7zh8zh9zhAzhB",
    "zhCzhDzhEzhFzgE0zh1zh2zh3zh4zh5zh6zh7zh8zh9zhAzhBzhCzhDzhEzhFzgF0zh1zh2zh3zh4zh5zh6zh7zh8zh9zhAzhBzhCzhDzhEzhFzf900zh1zh2",
    "zh3zh4zh5zh6zh7zh8zh9zhAzhBzhCzhDzhEzhFzg10zh1zh2zh3zh4zh5zh6zh7zh8zh9zhAzhBzhCzhDzhEzhFzg20zh1zh2zh3zh4zh5zh6zh7zh8zh9zhA",
    "zhBzhCzhDzhEzhFzg30zh1zh2zh3zh4zh5zh6zh7zh8zh9zhAzhBzhCzhDzhEzhFzg40zh1zh2zh3zh4zh5zh6zh7zh8zh9zhAzhBzhCzhDzhEzhFzg50zh1",
    "zh2zh3zh4zh5zh6zh7zh8zh9zhAzhBzhCzhDzhEzhFzg60zh1zh2zh3zh4zh5zh6zh7zh8zh9zhAzhBzhCzhDzhEzhFzg70zh1zh2zh3zh4zh5zh6zh7zh8zh9",
    "zhAzhBzhCzhDzhEzhFzg80zh1zh2zh3zh4zh5zh6zh7zh8zh9zhAzhBzhCzhDzhEzhFzg90zh1zh2zh3zh4zh5zh6zh7zh8zh9zhAzhBzhCzhDzhEzhFzgA0",
    "zh1zh2zh3zh4zh5zh6zh7zh8zh9zhAzhBzhCzhDzhEzhFzgB0zh1zh2zh3zh4zh5zh6zh7zh8zh9zhAzhBzhCzhDzhEzhFzgC0zh1zh2zh3zh4zh5zh6zh7zh8",
    "zh9zhAzhBzhCzhDzhEzhFzgD0zh1zh2zh3zh4zh5zh6zh7zh8zh9zhAzhBzhCzhDzhEzhFzgE0zh1zh2zh3zh4zh5zh6zh7zh8zh9zhAzhBzhCzhDzhEzhF",
    "zgF0zh1zh2zh3zh4zh5zh6zh7zh8zh9zhAzhBzhCzhDzhEzhFzfA00zh1zh2zh3zh4zh5zh6zh7zh8zh9zhAzhBzhCzhDzhEzhFzg10zh1zh2zh3zh4zh5zh6",
    "zh7zh8zh9zhAzhBzhCzhDzdF900zg1zg2zg3zg4zg5zg6zg7zg8zg9zgAzgBzgCzgDzgEzgFzf10zg1zg2zg3zg4zg5zg6zg7zg8zg9zgAzgBzgCzgDzgEzgF",
    "zf20zg1zg2zg3zg4zg5zg6zg7zg8zg9zgAzgBzgCzgDzgEzgFzf30zg1zg2zg3zg4zg5zg6zg7zg8zg9zgAzgBzgCzgDzgEzgFzf40zg1zg2zg3zg4zg5zg6",
    "zg7zg8zg9zgAzgBzgCzgDzgEzgFzf50zg1zg2zg3zg4zg5zg6zg7zg8zg9zgAzgBzgCzgDzgEzgFzf60zg1zg2zg3zg4zg5zg6zg7zg8zg9zgAzgBzgCzgDzgE",
    "zgFzf70zg1zg2zg3zg4zg5zg6zg7zg8zg9zgAzgBzgCzgDzgEzgFzf80zg1zg2zg3zg4zg5zg6zg7zg8zg9zgAzgBzgCzgDzgEzgFzf90zg1zg2zg3zg4zg5",
    "zg6zg7zg8zg9zgAzgBzgCzgDzgEzgFzfA0zg1zg2zg3zg4zg5zg6zg7zg8zg9zgAzgBzgCzgDzgEzgFzfB0zg1zg2zg3zg4zg5zg6zg7zg8zg9zgAzgBzgCzgD",
    "zgEzgFzfC0zg1zg2zg3zg4zg5zg6zg7zg8zg9zgAzgBzgCzgDzgEzgFzfD0zg1zg2zg3zg4zg5zg6zg7zg8zg9zgAzgBzgCzgDzgEzgFzfE0zg1zg2zg3zg4",
    "zg5zg6zg7zg8zg9zgAzgBzgCzgDzgEzgFzfF0zg1zg2zg3zg4zg5zg6zg7zg8zg9zgAzgBzgCzgDzgEzgFzeA00zg1zg2zg3zg4zg5zg6zg7zg8zg9zgAzgB",
    "zgCzgDzgEzgFzf10zg1zg2zg3zg4zg5zg6zg7zg8zg9zgAzgBzgCzgDzgEzgFzf20zg1zg2zg3zg4zg5zg6zg7zg8zg9zgAzgBzgCzgDzgEzgFzf30zg1zg2",
    "zg3zg4zg5zg6zg7zg8zg9zgAzgBzgCzgDzgEzgFzf40zg1zg2zg3zg4zg5zg6zg7zg8zg9zgAzgBzgCzgDzgEzgFzf50zg1zg2zg3zg4zg5zg6zg7zg8zg9zgA",
    "zgBzgCzgDzgEzgFzf60zg1zg2zg3zg4zg5zg6zg7zg8zg9zgAzgBzgCzgDzf70zg1zg2zg3zg4zg5zg6zg7zg8zg9zgAzgBzgCzgDzgEzgFzf80zg1zg2zg3",
    "zg4zg5zg6zg7zg8zg9zgAzgBzgCzgDzgEzgFzf90zg1zg2zg3zg4zg5zg6zg7zg8zg9zgAzgBzgCzgDzgEzgFzfA0zg1zg2zg3zg4zg5zg6zg7zg8zg9zgAzgB",
    "zgCzgDzgEzgFzfB0zg1zg2zg3zg4zg5zg6zg7zg8zg9zgAzgBzgCzgDzgEzgFzfC0zg1zg2zg3zg4zg5zg6zg7zg8zg9zgAzgBzgCzgDzgEzgFzfD0zg1zg2",
    "zg3zg4zg5zg6zg7zg8zg9eRADICAL BAMBOOnLUEnOLT OF CLOTHoNEoXnRUSH ONEsTWOmC-SIMPLIFIED BIRDzaCARTzaDRAGONzaEATzbVENzaFISH",
    "zbLYzbROGzaGATEzbOLDzaHORSEzaLEAFzbONGzaSALTzbEEzbHELLzbILKzbPEECHzaTANNED LEATHERzbOOTHzbURTLEzaWINDnHOKEnITYoVILIANnLIFF",
    "oOTHESnOWmDEATHnIVINATIONnOGmEAT ONEqTHREErWOnWEnYEmFIREnOOTmGHOSTnRASS ONEsTHREEtWOmHANDnEADpRT ONEsTWOnORN",
    "mJ-SIMPLIFIED DRAGONzaEVENzaTOOTHzbURTLEnADEmKNIFE ONEsTWOmLAME FOURrONErTHREEsWOnONG ONErTWOmMEAToSHnOONoRTARoTHER",
    "oUND ONEsTWOmNET FOURqONEqTHREErWOmOLDmPAW ONEqTWOnERSONmRAINoMoPnEPEATmSEALoCOND ONEtTHREEuWOnHEEPnILK",
    "oMPLIFIED HALF TREE TRUNKyORNxWALKyHEATxYELLOWnMALL ONEsTWOnNAKEoOUT ONEsTWOnPIRIT ONEtTWOnUNmTABLEnHREADnIGERnURTLE",
    "mWALK ONErTWOoTER ONEsTWOnEST ONErTWOeSTROKE BXGlDlHmGmPnWGmXWGmZnGnTnWoGnZoPoZpGlNlPmDmGmZlQlSmGmPmTmWnGnZmZnWGnZlTmNlWG",
    "lXGbLAMSHELL MOBILE PHONEdPPER BOARDfING HANDS SIGNdSSICAL BUILDINGcEAR SCREEN SYMBOLcINKING BEER MUGSjGLASSESdPBOARD",
    "cOCK FACE EIGHT OCLOCKq-THIRTYmLEVEN OCLOCKr-THIRTYlFIVE OCLOCKp-THIRTYmOUR OCLOCKp-THIRTYlNINE OCLOCKp-THIRTYlONE OCLOCK",
    "o-THIRTYlSEVEN OCLOCKq-THIRTYmIX OCLOCKo-THIRTYlTEN OCLOCKo-THIRTYmHREE OCLOCKq-THIRTYmWELVE OCLOCKr-THIRTYnO OCLOCK",
    "o-THIRTYfWISE CLOSED CIRCLE ARROWlONTOUR INTEGRALkDOWNWARDS AND UPWARDS OPEN CIRCLE ARROWSkGAPPED CIRCLE ARROWkINTEGRAL",
    "kOPEN CIRCLE ARROWkRIGHT AND LEFT SEMICIRCLE ARROWSpWARDS AND LEFTWARDS OPEN CIRCLE ARROWSzzd WITH CIRCLED ONE OVERLAY",
    "kTOP SEMICIRCLE ARROWlRIANGLE-HEADED OPEN CIRCLE ARROWdSE UPfD BOOKhINTERSECTION WITH SERIFShLOCK WITH KEY",
    "hMAILBOX WITH LOWERED FLAGuRAISED FLAGhSUBSETn OR EQUAL TOjPERSETp OR EQUAL TOhUMBRELLAiNION WITH SERIFS",
    "y AND SMASH PRODUCTdUDf WITH LIGHTNINGlRAINlSNOWlTORNADOdWN FACEbOATcCKROACHeTAIL GLASSdONUTcFFINcINcLLISION SYMBOLdON",
    "f EQUALSgSIGNcMBINING ACUTE ACCENTw BELOWqTONE MARKp-GRAVE-ACUTEqMACRONlLMOST EQUAL TO ABOVEzbBELOWlNNUITY SYMBOL",
    "mTICLOCKWISE ARROW ABOVEyRING OVERLAYlSTERISK ABOVEtBELOWkBINDU BELOWlREVEp BELOWp-MACRONmIDGE ABOVErBELOWkCANDRABINDUmRON",
    "p BELOWlEDILLAlIRCUMFLEX ACCENTzc BELOWlLOCKWISE ARROW ABOVEuRING OVERLAYlOMMA ABOVEv RIGHTqBELOWmNJOINING MACRONzc BELOW",
    "lYRILLIC DASIA PNEUMATAtHUNDRED MILLIONS SIGNzcTHOUSANDS SIGNtKAVYKAtLETTER AzbBEzcIG YUSzbCHEzbDEzcJERVzbEFzcLzcMzcNzcR",
    "zcSzd-TEzbFITAzbGHEzbHAzdRD SIGNzbIzcEzcOTIFIED AzkBIG YUSzkEzbKAzbLITTLE YUSzbMONOGRAPH UKzbOzcMEGAzbPEzbSHAzdCHA",
    "zcOFT SIGNzbTEzcSEzbUzcKRAINIAN IEzbVEzbYATzcERUzcIzcUzbZEzcHEtMILLIONS SIGNtPALATALIZATIONvYEROKuOKRYTIEuSILI PNEUMATA",
    "tTEN MILLIONS SIGNuHOUSAND MILLIONS SIGNuITLOy LEFT HALFzaRIGHT HALFtVZMETkDELETION MARKmVANAGARI DIGIT EIGHTzcFIVEzdOUR",
    "zcNINEzcONEzcSEVENzdIXzcTHREEzdWOzcZEROvLETTER AzdKAzdNAzdPAzdRAzdUzdVIvSIGN AVAGRAHAlIAERESISt BELOWt-RINGlOT ABOVEt LEFT",
    "uRIGHToBELOWt LEFTnTED ACUTE ACCENTrGRAVE ACCENTmUBLE ACUTE ACCENTrBREVEw BELOWrCIRCUMFLEX ABOVErGRAVE ACCENT",
    "rINVERTED BREVEzg BELOWrLOW LINErMACRONx BELOWrOPEN MARK BELOWsVERLINErPARENTHESES ABOVEsLUS SIGN ABOVEzcBELOW",
    "rRIGHTWARDS ARROW BELOWtNG BELOWrTILDEw LEFT HALFxRIGHT HALFrVERTICAL LINE ABOVEzgBELOWzbSTROKE OVERLAY",
    "qD CIRCUMFLEX ACCENTmWN TACK BELOWoWARDS ARROWkENCLOSING CIRCLEzb BACKSLASHuDIAMONDuKEYCAPuSCREENvQUARE",
    "uUPWARD POINTING TRIANGLElQUALS SIGN BELOWkFERMATAlOUR DOTS ABOVEkGLAGOLITIC LETTER AZUzdBIG YUSzeUKYzdCHRIVIzdDJERVI",
    "zeOBROzdFITAzeRITUzdGLAGOLIzdHERUzdIzeNITIAL IZHEzeOTATED BIG YUSzlSMALL YUSzeZHEzdKAKOzdLJUDIJEzdMYSLITEzdNASHIzdONU",
    "zdPOKOJIzdRITSIzdSHAzfTAzeLOVOzeMALL YUSzdTSIzeVRIDOzdUKUzdVEDEzdYATIzeERIzgUzfSTUzeOzeUzdZEMLJAzeHIVETElRANTHA DIGIT FIVE",
    "zaOURyONEySIXyTHREEzaWOyZEROsLETTER AzaKAzaNAzaPAzaVInPHEME JOINERnVE ACCENTw BELOWqTONE MARKp-ACUTE-GRAVEqMACRON",
    "mEEK DIALYTIKA TONOSqKORONISqMUSICAL PENTASEMEyTETRASEMEzaRISEMEqPERISPOMENIqYPOGEGRAMMENIkHOMOTHETIC ABOVEmOK ABOVEmRN",
    "kINFINITYmVERTED BREVEy BELOWvIDGE BELOWtDOUBLE ARCH ABOVEzgBELOWlS BELOWkKATAKANA-HIRAGANA SEMI-VOICED SOUND MARK",
    "zdVOICED SOUND MARKmVYKA ABOVE LEFTxRIGHTkLATIN LETTER SMALL CAPITAL GzmLzmMzmNzmRqSMALL LETTER Azf WITH DIAERESISzfE",
    "zfLPHAzfOzfVzeBzfETAzeCzf CEDILLAzeDzeEzfSHzfTHzeFzfLATTENED OPEN A ABOVEzeGzeHzeIzfNSULAR DzmGzmRzmTzeKzeL",
    "zf WITH DOUBLE MIDDLE TILDEzfONG SzeMzeNzeOzf WITH DIAERESISzlLIGHT CENTRALIZATION STROKEzePzeRzf BELOWzgROTUNDAzeSzfCHWA",
    "zeTzfURNED W BELOWzeUzf WITH DIAERESISzlLIGHT CENTRALIZATION STROKEzeVzeWzf BELOWzeXzeZlEFT ANGLE ABOVEvBELOWqRROW ABOVE",
    "vBELOWuHEAD ABOVEzaBELOWpHALF RING ABOVEzaBELOWrRPOON ABOVEpPARENTHESIS ABOVE LEFTzcBELOW LEFTpRIGHT ARROW ABOVEzcBELOW",
    "pTACK BELOWoWARDS ARROW OVERLAYuHARPOON WITH BARB DOWNWARDSlIGATURE LEFT HALFzd BELOWtRIGHT HALFze BELOW",
    "nHT CENTRALIZATION STROKE BELOWlONG DOUBLE SOLIDUS OVERLAYpSOLIDUS OVERLAYqTROKE OVERLAYpVERTICAL LINE OVERLAYmW LINE",
    "kMACRONq BELOWrLEFT HALFzb BELOWrRIGHT HALFzc BELOWq-ACUTErBREVErGRAVElINUS SIGN BELOWkNOT TILDE ABOVElUMBER SIGN ABOVE",
    "kOGONEKq ABOVElLD PERMIC LETTER ANzdDOIzdNENOEzdSIIzdZATAlPEN MARK BELOWlVERLINEkPALATALIZED HOOK BELOWmRENTHESES ABOVE",
    "wBELOWwOVERLAYlLUS SIGN ABOVEuBELOWkRETROFLEX HOOK BELOWmVERSE SOLIDUS OVERLAYrD COMMA ABOVElIGHT ARROW ABOVEwBELOW",
    "vHEAD ABOVEzcND DOWN ARROWHEAD BELOWzfUP ARROWHEAD BELOWzbBELOWqHALF RING ABOVEzbBELOWsRPOON ABOVEqPARENTHESIS ABOVE RIGHT",
    "zdBELOW RIGHTqTACK BELOWpWARDS HARPOON WITH BARB DOWNWARDSmNG ABOVEpBELOWpOVERLAYkSEAGULL BELOWlHORT SOLIDUS OVERLAY",
    "rTROKE OVERLAYqVERTICAL LINE OVERLAYlNAKE BELOWlQUARE BELOWsRACKETS ABOVElTRONG CENTRALIZATION STROKE BELOWlUSPENSION MARK",
    "kTHREE DOTS ABOVElILDEp BELOWqLEFT HALF BELOWqOVERLAYqRIGHT HALF BELOWlRIPLE ACUTE ACCENTrDOTrUNDERDOTlURNED COMMA ABOVE",
    "kUP TACK ABOVEsBELOWmWARDS ARROW BELOWlR ABOVElS ABOVEkVERTICAL LINE ABOVEyBELOWtTILDEkWIDE BRIDGE ABOVE",
    "pINVERTED BRIDGE BELOWmGGLY LINE BELOWkX ABOVEmBELOWl-X BELOWkZIGZAG ABOVErBELOWdETdMAeERCIAL ATlMINUS SIGNdPASSeLEMENT",
    "eOSITION SYMBOLeRESSIONcNFETTI BALLeOUNDED FACEeUSED FACEdGRUENT WITH DOT ABOVEdICAL TAPERdJUNCTIONdSTRUCTION SIGNnWORKER",
    "dTAINS AS MEMBERmNORMAL SUBGROUPzc OR EQUAL TOjWITH LONG HORIZONTAL STROKEoOVERBAR",
    "oVERTICAL BAR AT END OF HORIZONTAL STROKEeINUOUS UNDERLINE SYMBOLeOUR INTEGRALeROL KNOBSiSEQUENCE INTRODUCER",
    "dVENIENCE STOREcOKED RICEeIEfNGcPTIC CAPITAL LETTER AKHMIMIC KHEIxLFAwBOHAIRIC KHEIwCROSSED SHEIyYPTOGRAMMIC EIEzlGANGIA",
    "zlNIzlSHEIwDALDAxEIxIALECT-P ALEFzhHORIzhKAPAzhNIwEIEwFEIxIwGAMMAyNGIAwHATExORIwIAUDAwKAPAxHEIyIxSIwL-SHAPED HAxAULAwMIwNI",
    "wOxLD COPTIC AINziDJAziESHziGANGIAziHAzkTzjEIzjORIziOOUziSHEIzkIMAzbNUBIAN NGIzjYIziSHIMAziWAUxOUwPIxSIwROwSAMPIxHEIyIMA",
    "xIMAxOUwTAUxHETHEwUAwVIDAwZATAiOMBINING NI ABOVErSPIRITUS ASPERzbLENIShEPACT DIGIT EIGHTtFIVEuOURtNINEtONEtSEVENuIXtTHREE",
    "uWOnNUMBER EIGHT HUNDREDzaYuFIFTYwVE HUNDREDvORTYwUR HUNDREDuNINE HUNDREDyTYuONE HUNDREDuSEVEN HUNDREDzaTYvIX HUNDREDxTY",
    "uTENvHIRTYwREE HUNDREDvWENTYwO HUNDREDnTHOUSANDS MARKhFRACTION ONE HALFiULL STOPhMORPHOLOGICAL DIVIDER",
    "hOLD NUBIAN DIRECT QUESTION MARKsFULL STOPsINDIRECT QUESTION MARKsVERSE DIVIDERhSMALL LETTER AKHMIMIC KHEIvLFA",
    "uBOHAIRIC KHEIuCROSSED SHEIwYPTOGRAMMIC EIEzjGANGIAzjNIzjSHEIuDALDAvEIvIALECT-P ALEFzfHORIzfKAPAzfNIuEIEuFEIvIuGAMMAwNGIA",
    "uHATEvORIuIAUDAuKAPAvHEIwIvSIuL-SHAPED HAvAULAuMIuNIuOvLD COPTIC AINzgDJAzgESHzgGANGIAzgHAziTzhEIzhORIzgOOUzgSHEIziIMA",
    "yNUBIAN NGIzhYIzgSHIMAzgWAUvOUuPIvSIuROuSAMPIvHEIwIMAvIMAvOUuTAUvHETHEuUAuVIDAuZATAiYMBOL KAIpHI ROoMI ROoPI ROoSHIMA SIMA",
    "pTAUROSoTAU ROdYLEFT SYMBOLeRIGHT SIGNcRALdNISH VERSE DIVIDERdRESPONDS TOcUCH AND LAMPdNTERBOREhSINK"]

/-- The second quarter of the list. -/
def secondQuarter : List String := [
    "fING ROD TENS DIGIT EIGHTyFIVEzaOURyNINEyONEySEVENzaIXyTHREEzaWOnUNIT DIGIT EIGHTyFIVEzaOURyNINEyONEySEVENzaIXyTHREEzaWO",
    "dPLE WITH HEARTcWd FACEbRcABcEDIT CARDdSCENT MOONcICKETh BAT AND BALLcOCODILEdISSANTdSS MARKgOF JERUSALEMjLORRAINE",
    "gPATTY WITH LEFT CROSSBARrRIGHT CROSSBARhOMMEEm WITH HALF-CIRCLE BELOWfED FLAGSiNEGATIVE SQUARED LATIN CAPITAL LETTER P",
    "iSWORDSfING LANESdWNcUTCHdZEIRO SIGNcYING CAT FACEhFACEdSTAL BALLbSIbUBE ROOTcCUMBERcNEIFORM NUMERIC SIGN EIGHT ASHzeDISH",
    "zeGESH2zeSHAR2zeUzf VARIANT FORMzeVARIANT FORM USSUzv3yLAMITE FIFTYzhORTYzgONE THIRDzgTWO THIRDSxFIVE ASHzg TENUzdBAN2",
    "zh VARIANT FORMzeURUzdDISHzdGESH2zhUzdSHAR2zhUzeIXTHS DISHzdUze VARIANT FORMyOUR ASHzg TENUzdBAN2zh VARIANT FORMzeURU",
    "zdDISHzdGESH2zhUzdSHAR2zhUzdUze VARIANT FORMzdVARIANT FORM LIMMUzv AzwBzv4xNIGIDAESHzeMINzaNE ASHzdDISHzdGESH2zdSHAR2zdU",
    "ze VARIANT FORMzdVARIANT FORM ILIMMUzw Azw3zw4xOLD ASSYRIAN ONE QUARTERzpSIXTHyNE BAN2zdURUzcEIGHTH ASHzdSHE3zcGESH2zgU",
    "zcHALF GURzcQUARTER ASHzkGURzcSHARUzcTHIRD DISHziVARIANT FORM AxSEVEN ASHzeDISHzeGESH2zeSHAR2zeUzf VARIANT FORM",
    "zeVARIANT FORM IMIN AzwBzv3yHAR2 TIMES GAL PLUS DISHztMINyIX ASHzf TENUzcDISHzcGESH2zcSHAR2zcUzd VARIANT FORM",
    "zcVARIANT FORM ASH9xTHREE ASHzh TENUzeBAN2zfURUzi VARIANT FORMzeDISHzeGESH2ziUzeSHAR2zj VARIANT FORMziUzj VARIANT FORM",
    "zeVARIANT FORM ESH16zu21yWO ASHzf TENUzcBAN2zdURUzcESHE3zcGESH2zgUzcSHAR2zgUzcTHIRDS DISHzjVARIANT FORM A",
    "kPUNCTUATION SIGN DIAGONAL COLONzlQUADCOLONzlTRICOLONzcOLD ASSYRIAN WORD DIVIDERzcVERTICAL COLONkSIGN Aq TIMES AxBAD",
    "xGAN2 TENUxHAxIGIxLAGAR GUNUxMUSHxSAGq2qBr GUNUsTIMES ASH2yDUN3 GUNUyGALzbN2 TENUyHAyIGI GUNUzaMINyLAGAByNUNzc TENUySHESH",
    "zbU2yU PLUS U PLUS Ur2s TIMES AzaBALAGzaGAN2 TENUzaME PLUS ENzaSHA3zaTAK4qDr TIMES ESH2qKr TIMES ERIN2ySHITA PLUS GISHqL",
    "r TIMES ALyDIM2yGISHyHAyKAD3zaIySHEyUSHrANrEPHqMARt TIMES KUGzbSHEqNr OVER ANsPLUS NAGA OPPOSING AN PLUS NAGAzdSQUARED",
    "sTHREE TIMESrSHEqPINqRADt TIMES KURrKABqSAL2rHs KABA TENUtOVER ASH OVER ASHzl CROSSING ASH OVER ASH OVER ASH",
    "zdTUG2 OVER TUG2 TUG2 OVER TUG2 PAPtZIDA TENUs2sGABpBArDs TIMES DISH TENUrG3rHAR2v TIMES AB2zdNIzdZArLs OVER BALsAGrRsA2qI",
    "r TIMES AyGARyIGI GUNUqUr CROSSING BUsOVER BU ABzbTIMES NA2zbUNrLUGu OVER BULUGrRs2pDAr TIMES TAK4rG",
    "s KISIM5 TIMES A PLUS MASHziMARzhBALAGziIzhGAzj PLUS MASHziIzjR2ziUDzhHAzhIRzj PLUS LUzhKAKzhLAziUzj PLUS MASH2zjMzhNE",
    "zhPAP PLUS PAPzhSIzhTAK4zhU2 PLUS GIR2zpMASHziSHtTIMES KURs3rMrRsA3t4qIrBrMs TIMES IGIzaSHEzaU U Us2t TIMES UDrN",
    "s KASKAL U GUNU DISHrSHt PLUS SHUqUr GUNUsOVER DUsSHESHIGrBs TIMES ESH2zaSHEs2rGs TIMES ANSHEzbSHzd AT LEFTzaDINzbUN",
    "zaERIN2zaGAzbIzcR2 GUNUzcSHzaHAzbIzaIGI GUNUzaKASKALzbURzcSHU2zg PLUS KASKALzaLAK-020zcMzd TIMES KURzbUH PLUS GISHzaMASH",
    "zbESzbIzaNIzaPIzaSHEzbI GUNUsUDrHrNs3t GUNUy GUNUs4rR2pEq OVER E NUN OVER NUNrTIMES PAPq2r TIMES A PLUS HA PLUS DAyGARyKUR",
    "yMIyPAPySALzaHEyUqDINqGIRqLqNr CROSSING ENsOPPOSING ENsSQUAREDsTIMES GAN2zd TENUyMEqRENrIN2u XqSH2t CROSSING ESH2qZEN",
    "t SHESHIG TIMES ASHzjHIzjIGI GUNUzjLAzlLzjMEzlSzjSUuTIMES Azc PLUS LALzl TIMES LALzcNzbBADzbDUN3 GUNUzk GUNUzbGUDzbHA",
    "zd GUNUzbIGI GUNUzbKASKALzh SQUAREDzcU3zbLAzdL TIMES LALzcIzcUzbSHEzcUzbU2zcDpGAr GUNUr2s OVER GA2tTIMES A PLUS DA PLUS HA",
    "zhHAzhIGIzbB2 TENU PLUS TABzbNzc PLUS KAK PLUS AzbSHzd2ze PLUS GALzaBADzcHAR2zcR PLUS RAzbURzd PLUS RAzaDAzbIzcM GUNU",
    "zeTIMES SHEzbUBzcG TIMES IGI GUNUzkKASKALzaELzc PLUS LAzbNzc TIMES GAN2 TENUzbRENzaGAzcN2 TENUzcRzd PLUS DIzjNEzbIzc4",
    "zd PLUS AzcR2 PLUS SUzaHA PLUS AziLU PLUS ESH2zcLzd PLUS LAzbI PLUS LIzbUB2zaIGI GUNUzbSH PLUS HU PLUS ASHzaKAKzcSKALzbID",
    "zd PLUS LALzbU3 PLUS ANzcSHU2 PLUS KASKALzaLAzcMzd TIMES KURzbUHzaME PLUS ENzbIzbUSHzaNEzc PLUS E2ziGIzbUNzd OVER NUNzaPA",
    "zaSALzcRzbHEzd PLUS TURzcIDzdMzbUMzaTAK4zaUzbDzc PLUS DUzaZIZ2rBAt CROSSING GABAuROTATED NINETY DEGREESrD",
    "s OVER GAD GAR OVER GARrLs GAD OVER GAD GAR OVER GARsAMrMrNs2t CROSSING GAN2uOVER GAN2uTENUrRs3rSHANqE22rSHTINw TIMES KUR",
    "zeUqIr CROSSING GIsTIMES EyUr4s CROSSING GI4tOVER GI4rDIMrGrR2t GUNUs3t TIMES A PLUS IGIzbGAN2 TENUzbIGIzbLU PLUS IGIzbPA",
    "rSALsHt CROSSING GISHuTENUvIMES BADzbGISH CROSSING GISHzbTAK4qUr CROSSING GUr2s GUNUtTIMES IGI GUNUzaKAKzd TIMES IGI GUNU",
    "zaNUNzaSAL PLUS TUG2rDs OVER GUD LUGALtPLUS GISH TIMES TAK4tTIMES A PLUS KURzaKURrLrMs TIMES SHErRs7sUNtSHpHAr GUNUsTENU",
    "w GUNUrLqIr TIMES ASHzc OVER HI TIMES ASHzc2yBADyDISHyGADyKINyNUNySHEyUqUrB2t TIMES ANzbHALzbKASKALzbLISHzbUDrL2rSHpIq AqB",
    "qDIMt OVER IDIM BURzfSQUAREDqGrIs DIBtGUNUtOVER IGI SHIR OVER SHIR UD OVER UDtRIqLr TIMES GAN2 TENUr2qMr CROSSING IM",
    "sOPPOSING IMsSQUAREDsTIMES TAK4rINqNqRqSHpKAr TIMES AzaDzb PLUS KU3zaNSHEzaSH2zc3yBADzbLAGzbRzaIzaUyERIN2zaSH2yGAzbL",
    "zbN2 TENUzbRzc PLUS SHA3 PLUS AzaIzbR2zbSHzd CROSSING GISHzePLUS SARzaUzbDzbR7yHI TIMES ASH2yIGIzaMyKAzbKzaIzbDyLIzaUzbM",
    "yMEzb PLUS DUzhGIzhTEzaIzb PLUS NUNUZyNEzaUNyPAzaIyRUySAzbRzaHAzbEzbIDzbUzcLzaIGzaUHURyTARzaUyUza U Uza2zaDzaMUM TIMES PA",
    "zaRzb2zaSHyZIr2s CROSSING KA2rBrD2s3s4s5t OVER KAD5rKs TIMES IGI GUNUrLs CROSSING KALtTIMES BADrM2s4rP ELAMITErSKAL",
    "v LAGAB TIMES U OVER LAGAB TIMES UwOVER KASKAL LAGAB TIMES U OVER LAGAB TIMES UqESH2qIr TIMES BADyUzaDrDrNrSALsHsIM5",
    "v OVER KISIM5qUr OVER HI TIMES ASH2 KU OVER HI TIMES ASH2r3r4s VARIANT FORMr7rLs GUNUrNrRs OPPOSING KURrSHU2qWU318pLArGAB",
    "u SQUAREDvTIMES Azd PLUS DA PLUS HAzjGARzjLALzdLzdNzdSH ZIDA TENUzcBADzdIzcDARzcENzcGAzeRzdIzdUDzf PLUS GUDzcHAzeL",
    "zdI TIMES NUNzcIGI GUNUzdMze PLUS HAzkLUzcKIzeNzdU3zeLzf PLUS HI PLUS AzcLAGABzdISHzdUzeLzcMEze PLUS ENzdUSHzcNE",
    "zcSHE PLUS SUMzeITA PLUS GISH PLUS ERIN2zsTENUzeU2zg PLUS SHU2zdUMzcTAGzeK4zdE PLUS A PLUS SU PLUS NAzcUzd PLUS A",
    "zjU PLUS Uzd2 PLUS ASHzdDzdSHzcZU OVER ZUtRu GUNUza OVER LAGAR GUNU SHEvTIMES SHEzf PLUS SUMrHSHUrK-003u21v5u30u50v1u62",
    "u79 OVER LAK-079 GUNUu80v1 OVER LAK-081u92t130u42t210v9u20v5v8u38u65v6t343v7v8u83v4u90t441v9w TIMES GUzeIGIzePAP PLUS LU3",
    "znPAP PLUS LU3zeU2 PLUS BAu50v7u70u83u90v2v3v5t550t608u17w TIMES ASHzeBADzeDUN3 GUNU GUNUzeKU3zeLAzeTARzfEzeU2zfDzfRUDAu36",
    "u48w TIMES DUBzeGAzeIGIzh GUNUzeNIzePAP PLUS PAP PLUS LU3zeSHESH PLUS KIzeUDzfRUDAt724u49rLs TIMES LALrMs TIMES KUR",
    "zd PLUS RUqIrLrMMU2rSHqUr TIMES BADr2s CROSSING LU2tGUNU TIMES ASHtOPPOSING LU2tSHESHIGzb TIMES BADuQUAREDtTENUuIMES AL",
    "zaBADzaDISHzaESH2ze PLUS LALzfTENUzaGAN2 TENUzaHALzbI TIMES BADzaIMzaKAD2zd3ze PLUS ASHzbIzaLA PLUS ASHzcGABzaME PLUS EN",
    "zaNEzbUzaPAPzd PLUS PAP PLUS LU3zaSHUzbI PLUS ASHzcK2 PLUS BUzaTAK4zbUG2r3rGALu OPPOSING LUGALwVER LUGALvSHESHIGrHrLrM",
    "s OVER LUMzc GAR OVER GARpMAr GUNUsTIMES TAK4r2rHrRrSHt2qErSsHqIr PLUS ZA7rNqUr OVER MUrGs GUNUrNSUBrRGU2rSH",
    "t CROSSING MUSHuOVER MUSHze TIMES A PLUS NAzlGAzlKAKuTIMES AzbKURzbZAt3u GUNUvTIMES Azd PLUS DIzcDIzcZApNAr2r4rGA",
    "t INVERTEDuOPPOSING NAGAuTIMES SHU TENUtRrMs NUTILLUs2qEr SHESHIGsTIMES AyUDqIr TIMES Er2rMs TIMES GAN2 TENU",
    "zcR PLUS GAN2 TENUrNs9sDA2v TIMES ANzeSHzg PLUS ASHzdBALzdDIM GUNUzdGIzfSHzeUDzfLzdHIzdKESH2zdLAK-050zdMASH",
    "zeE PLUS GAN2 TENUzdNEzeUNzdPAP PLUS PAPzdSHEzg PLUS A ANznSHzp PLUS ASHzdUze PLUS Uze2 PLUS ASHzeRUDAzeSHrSAGqUr11",
    "t OVER NU11 BUR OVER BURuROTATED NINETY DEGREESuTENUrNs CROSSING NUNzg LAGAR OVER LAGARtLAGAR TIMES GARzgMASHzgSAL",
    "zj OVER NUN LAGAR TIMES SALzgUSHtOVER NUNtTENUsUZu AB2 TIMES ASHGABzgBIzgDUGzgGUDzgIGI GUNUzgKAD3zgLAzgNEzgSILA3zgU2",
    "vKISIM5 TIMES BIzl UpPArDrNrPqESH2u ASTERISKqIr CROSSING PIsTIMES AzaByBIzaUyEyIzaByUza2rR2sIGu OPPOSING PIRIGvTIMES KAL",
    "zcUDzcZApRArBqIqUpSArGs GUNUx TIMES HAtNUTILLUtOVER SAGtTIMES AzaDUzcBzaENzaHAzaIGI GUNUzaKAKzbURzaLUMzaMIzaNUNzaSAL",
    "zbHE AT LEFTzcIDzaTABzcK4zaU2zbBzbMzbRzbSHrLs LAGAB TIMES ASH2rNGA2rRqHAs3t TIMES AzbBADzbGISHzbNEzbSHU2zbTURzbUzc PLUS A",
    "s6t TENUsB6sR2rEs HUtOVER SHEzc GAD OVER GAD GAR OVER GARzdTAB OVER TAB GAR OVER GARtPLUS HUB2yNAM2ySARsG9sNsSHu2uLAMrID",
    "t TIMES AzbIMsMt TIMES AzbBALzcULUGzbDINzbGARzbIGIze GUNUzbKUSHU2zbLULzbMUGzbSALsNIGsRt OVER SHIR BUR OVER BURuTENUsTArU",
    "s OVER INVERTED SHUs2t PLUS DUG TIMES NIzaE2 TIMES ANsBURqIr GUNUsTIMES TAK4rGs4t OVER SIG4 SHU2rK2rLA3qUr OVER SUrDs2rHUR",
    "rMsASHrRs9pTAr ASTERISKsGUNUsTIMES HIyMIrBs OVER TAB NI OVER NI DISH OVER DISHtSQUAREDrGs TIMES BIzaGUDzaSHEzcUzaTUG2zaUD",
    "rK4t PLUS SAGrRqEr GUNUqIr TENUr2rLrRs OVER TIRzc GAD OVER GAD GAR OVER GARtTIMES TAK4qUrG2rKrMs TIMES GAN2 TENU",
    "zaTHREE DISHrRs OVER TUR ZA OVER ZApUq GUDrOVER U PA OVER PA GAR OVER GARySUR OVER SURyU REVERSED OVER U REVERSEDrUs Uq2qB",
    "qDr GUNUsKUSHU2sSHESHIGza TIMES BADsTIMES BADyMIyU PLUS U PLUS Uzo GUNUrUGqMr TIMES LAGAByMEzb PLUS DAySHA3yUrBINrUM",
    "t TIMES KASKALzbPAqNr GUNUqRr CROSSING URsSHESHIGr2s INVERTEDtTIMES A PLUS HAzhNAzbLzaHAzaNUNzaU2zc PLUS ASHziBIzbDr4rIs3",
    "rUs TIMES AzbSHGABzaBARzaDARA3zbUNzaGAzcLzcN2 TENUzcRzbUzaHAzaIGIzbMzbSHzaKIzaLAK-668zbU3zcMzaMINzaPAzaSHEzbIG4zaTU",
    "zaU PLUS GUDzbDzbRUDAsDAu TIMES UqSHs TIMES AzaKUzcRzaTAK4s2sUMXsXqTUKIqZ3s TIMES KASKALrUpZAr SQUARED TIMES KURsTENUr7rG",
    "rMXqE2qIr OVER ZIr3rBs KABA TENUrGrZ2qUr OVER ZU PLUS SARr5s TIMES AzaTHREE DISH TENUrBURrMcP ON BLACK SQUAREeWITH STRAW",
    "dCAKEdIDOcRLING STONEeY BRACKET EXTENSIONgLOGICAL ANDoORiOPdRENCY EXCHANGEjSIGNeY AND RICE",
    "dVED STEM PARAGRAPH SIGN ORNAMENTcSTARDeOMScT OF MEATbYCLONEcLINDRICITYcPRIOT SYLLABLE ArErIrJAsOrKAsEsIsOsUrLAsEsIsOsUrMA",
    "sEsIsOsUrNAsEsIsOsUrOrPAsEsIsOsUrRAsEsIsOsUrSAsEsIsOsUrTAsEsIsOsUrUrWAsEsIsOrXAsErZAsOeO-MINOAN SIGN CM001w2w4w5w6w7w8w9",
    "v10w1w2xBw3w5w7w9v21w3w4w5w6w7w8w9v30w3w4w5w6w7w8w9v40w1w4w6w7w9v50w1w2w3w4w5w6w8w9v60w1w2w3w4w6w7w8w9v70w1w2w3w4w5xBw6w8",
    "w9v80w1w2w3w4w5w6w7w8w9v90w1w2w4w5w6w7w8w9u100w1w2w3w4w5w7w8w9v10w2w4u301w2cRILLIC CAPITAL LETTER Aza WITH BREVE",
    "zgDIAERESISzaBKHASIAN CHEzm WITH DESCENDERzjDZEzjHAzaLEUT KAyBARRED Ozh WITH DIAERESISzbSHKIR KAzaEzaIG YUSzbNOCULAR O",
    "zaLENDED YUSzaROAD OMEGAzaYELORUSSIAN-UKRAINIAN IyCCHEzaHEzc WITH DESCENDERzjIAERESISziVERTICAL STROKEzaLOSED LITTLE YUS",
    "zaROSSED OyDCHEzaEzaJEzcRVzaOUBLE MONOCULAR OzgOzaWEzaZEzcLOzbHEzbWEzbZEzcHEyEza WITH DIAERESISzaFzaLzb WITH DESCENDER",
    "zhHOOKzhMIDDLE HOOKzhTAILzaMzb WITH TAILzaNzb WITH DESCENDERzhHOOKzhLEFT HOOKzhMIDDLE HOOKzhTAILzaRzb WITH TICKzaS",
    "zb WITH DESCENDERyFITAyGHEzc WITH DESCENDERziMIDDLE HOOKziSTROKEzo AND HOOKziUPTURNzaJEyHAzb WITH DESCENDERzhHOOKzhSTROKE",
    "zbRD SIGNzaWEyIza WITH DIAERESISzgGRAVEzgMACRONzaEzb WITH BREVEzhGRAVEzaOzbTAzcIFIED AziBIG YUSziCLOSED LITTLE YUSziE",
    "ziLITTLE YUSziYATzaZHITSAzg WITH DOUBLE GRAVE ACCENTyJEyKAzb WITH DESCENDERzhHOOKzhSTROKEzhVERTICAL STROKEzaHAKASSIAN CHE",
    "zaJEzaOMI DEzfJEzfZJEzeLJEzeNJEzeSJEzeTJEzeZJEzbPPAzaSIyLHAzaITTLE YUSzaJEyMONOCULAR OzdGRAPH UKyNEUTRAL YERzaJEyO",
    "za WITH DIAERESISzaMEGAze WITH TITLOzaTyPEzb WITH DESCENDERzhMIDDLE HOOKzaSIyQAyREVERSED DZEziTSEziYUziZEzaHAzaOUND OMEGA",
    "ySCHWAze WITH DIAERESISzaEMISOFT SIGNzaHAzbCHAzbHAzd WITH DESCENDERzbORT Izg WITH TAILzfUzbWEzaOFT DEzeELzfMzeSIGN",
    "zaTRAIGHT Uzj WITH STROKEyTCHEzaEzb WITH DESCENDERzhMIDDLE HOOKzaSEzbHEzbSEzbWEzaWEyUza WITH DIAERESISzhOUBLE ACUTE",
    "zgMACRONzaKzbRAINIAN IEyVEyWEyYAzbEzbTzaERUzd WITH BACK YERzjDIAERESISzaIzaNzaUyZEzb WITH DESCENDERziIAERESISzbMLYAzaHE",
    "zc WITH BREVEziDESCENDERzjIAERESISzbWEsIGATURE A IEzbEN GHEzbTE TSEjKAVYKAjLETTER MULTIOCULAR OqPALOCHKAqSMALL CAPITAL EL",
    "jPAYEROKjSMALL LETTER Ax WITH BREVEzeDIAERESISxBKHASIAN CHEzk WITH DESCENDERzhDZEzhHAxLEUT KAwBARRED Ozf WITH DIAERESIS",
    "ySHKIR KAxExIG YUSyNOCULAR OxLENDED YUSxROAD OMEGAxYELORUSSIAN-UKRAINIAN IwCCHExHEza WITH DESCENDERzhIAERESIS",
    "zgVERTICAL STROKExLOSED LITTLE YUSxROSSED OwDCHExExJEzaRVxOUBLE MONOCULAR OzeOxWExZEzaLOyHEyWEyZEzaHEwEx WITH DIAERESISxF",
    "xLy WITH DESCENDERzfHOOKzfMIDDLE HOOKzfTAILxMy WITH TAILxNy WITH DESCENDERzfHOOKzfLEFT HOOKzfMIDDLE HOOKzfTAILxR",
    "y WITH TICKxSy WITH DESCENDERwFITAwGHEza WITH DESCENDERzgMIDDLE HOOKzgSTROKEzm AND HOOKzgUPTURNxJEwHAy WITH DESCENDER",
    "zfHOOKzfSTROKEyRD SIGNxWEwIx WITH DIAERESISzeGRAVEzeMACRONxEy WITH BREVEzfGRAVExOyTAzaIFIED AzgBIG YUSzgCLOSED LITTLE YUS",
    "zgEzgLITTLE YUSzgYATxZHITSAze WITH DOUBLE GRAVE ACCENTwJEwKAy WITH DESCENDERzfHOOKzfSTROKEzfVERTICAL STROKExHAKASSIAN CHE",
    "xJExOMI DEzdJEzdZJEzcLJEzcNJEzcSJEzcTJEzcZJEyPPAxSIwLHAxITTLE YUSxJExONG-LEGGED DEwMONOCULAR OzbGRAPH UKwNARROW O",
    "xEUTRAL YERxJEwOx WITH DIAERESISxMEGAzc WITH TITLOxTwPALOCHKAxEy WITH DESCENDERzfMIDDLE HOOKxSIwQAwREVERSED DZEzgTSEzgYU",
    "zgZExHAxOUND OMEGAzcED VEwSCHWAzc WITH DIAERESISxEMISOFT SIGNxHAyCHAyHAzb WITH DESCENDERyORT Ize WITH TAILzdUyWExOFT DE",
    "zcELzdMzcSIGNxTRAIGHT Uzh WITH STROKEwTALL HARD SIGNzcTEzcYATxCHExEy WITH DESCENDERzfMIDDLE HOOKxHREE-LEGGED TExSEyHEySE",
    "yWExWEwUx WITH DIAERESISzfOUBLE ACUTEzeMACRONxKyRAINIAN IExNBLENDED UKwVEwWExIDE ESwYAyEyTxERUzb WITH BACK YERzhDIAERESIS",
    "xIxNxUwZEy WITH DESCENDERzgIAERESISyMLYAxHEza WITH BREVEzgDESCENDERzhIAERESISyWEqIGATURE A IEyEN GHEyTE TSEjTHOUSANDS SIGN",
    "aDAGGERg KNIFEhWITH LEFT GUARDmRIGHT GUARDcLET SYMBOLcNCERdGOcRK SHADEgUNGLASSEScSH SYMBOLfWITH LEFT UPTURNeED LOW LINE",
    "hOVERLINEhTRIANGLE-HEADED RIGHTWARDS ARROWcTA LINK ESCAPEbC1c2c3c4cSbEAF PERSONcCIDUOUS TREEeMAL EXPONENT SYMBOL",
    "iSEPARATOR KEY SYMBOLdREASE FONT SIZE SYMBOLcERcGREE CELSIUShFAHRENHEIThSIGNcLdETEdIVERY TRUCKdTA EQUAL TO",
    "cNTISTRY SYMBOL LIGHT DOWN AND HORIZONTALzr WITH CIRCLEzxTRIANGLEzxWAVExUP AND HORIZONTALzp WITH CIRCLEzvTRIANGLEzvWAVE",
    "xVERTICAL AND BOTTOM LEFTzsRIGHTzlTOP LEFTzpRIGHTzlWAVEzhWITH CIRCLEzmTRIANGLEcPARTMENT STOREcRELICT HOUSE BUILDING",
    "cSCENDING NODEdERET CAPITAL LETTER AYxBEExCHEExDEExEFyLyMyNzaGyRySzaHyTHyWxGAYxHxJEExKAYxLONG AzeHzdEzdIzdOzeOxOIyWxPEE",
    "xSHORT AzfHzeEzeIzeOzfOxTEEyHEExVEExWUxYEExZEEyHEEiSMALL LETTER AYvBEEvCHEEvDEEvEFwLwMwNxGwRwSxHwTHwWvGAYvHvJEEvKAYvLONG A",
    "zcHzbEzbIzbOzcOvOIwWvPEEvSHORT AzdHzcEzcIzcOzdOvTEEwHEEvVEEvWUvYEEvZEEwHEEfTg ISLANDdKTOP COMPUTERiWINDOW",
    "cVANAGARI ABBREVIATION SIGNmCUTE ACCENTlCARETlDANDAmIGIT EIGHTrFIVEsOURrNINErONErSEVENsIXrTHREEsWOrZEROmOUBLE DANDA",
    "lGAP FILLERmRAVE ACCENTlHEADSTROKElJAIN OMlLETTER AtAtItUtWtYsBAtBAtHAsCAuNDRA AzaEzaOtHAsDAtDAuDAvHAuHAtHAsEsFAsGAtGAtHA",
    "uHAtLOTTAL STOPsHAtEAVY YAsItIsJAtHAtJAsKAtHAuHAsLAtLAuLAsMAuRWARI DDAsNAtGAtNAuNAtYAsOtEtOEsPAtHAsQAsRAtHAtRAsSAtHAuORT A",
    "yEyOtSAsTAtHAtTAuHAsUtEtUuEsVAtOCALIC LzcLzbRzcRsYAtYAsZAtHAlOMlSIGN ANUSVARArVAGRAHAqCANDRABINDUzc AVAGRAHAzdTHREEzeWO",
    "zdVIRAMAqDOUBLE CANDRABINDU VIRAMAqHIGH SPACING DOTqINVERTED CANDRABINDUqNUKTAqPUSHPIKAqSIDDHAMrPACING CANDRABINDUqVIRAMA",
    "sSARGAmTRESS SIGN ANUDATTAxUDATTAlVOWEL SIGN AAxIxUxWxYwCANDRA EzeLONG EzeOwEwIxIwOxExOEwPRISHTHAMATRA EwSHORT EzdOwUxExU",
    "yEwVOCALIC LzgLzfRzgRdICE CONTROL FOURpONEpSTRINGpTHREEqWObIAERESISdMETER SIGNeOND OPERATORiSHAPE WITH A DOT INSIDEiTARGET",
    "iWITH BOTTOM HALF BLACKnLEFT HALF BLACKnRIGHT HALF BLACKnTOP HALF BLACKcE FACE-1j2j3j4j5j6dSEL LOCOMOTIVEcFFERENCE BETWEEN",
    "cGIT EIGHTl COMMAmFULL STOPgFIVEk COMMAlFULL STOPhOURk COMMAlFULL STOPgNINEk COMMAlFULL STOPgONEj COMMAkFULL STOPgSEVEN",
    "l COMMAmFULL STOPhIXj COMMAkFULL STOPgTHREEl COMMAmFULL STOPhWOj COMMAkFULL STOPgZEROk COMMAlFULL STOPdRAM FOR EARTH",
    "qLY HEAVENuUMANlGREATER YANGuINlHEAVENLY EARTHmUMAN EARTHlLESSER YANGtINcMENSION ORIGIN",
    "cNGBAT CIRCLED SANS-SERIF DIGIT EIGHTziFIVEzjOURziNINEziONEziSEVENzjIXziTHREEzjWOziZEROzcNUMBER TEN",
    "iNEGATIVE CIRCLED DIGIT EIGHTzgFIVEzhOURzgNINEzgONEzgSEVENzhIXzgTHREEzhWOzaNUMBER TENzaSANS-SERIF DIGIT EIGHTzrFIVEzsOUR",
    "zrNINEzrONEzrSEVENzsIXzrTHREEzsWOzrZEROzlNUMBER TENcRECT CURRENT SYMBOL FORM TWOhHITcSABLED CARePPOINTED BUT RELIEVED FACE",
    "nFACEdCONTINUOUS UNDERLINE SYMBOLdGUISED FACEcTTO MARKcVES AKURU DIGIT EIGHTsFIVEtOURsNINEsONEsSEVENtIXsTHREEtWOsZERO",
    "nOUBLE DANDAmEND OF TEXT MARKmGAP FILLERmINITIAL RAmLETTER AuAtBAuHAtCAuHAtDAuDAvHAuHAtEtGAuHAtHAtIuItJAtKAuHAtLAuLAtMAtNA",
    "uGAuNAuYAtOtPAuHAtRAtSAuHAuSAtTAuHAuTAtUuUtVAtYAuYAtZAmMEDIAL RAtYAmPREFIXED NASAL SIGNmSIGN ANUSVARArCANDRABINDUrHALANTA",
    "rNUKTAmVIRAMAnOWEL SIGN AAyIxExIyIxOxUyUdIDESeNG MASKeSION SIGNkLASHjTIMESdORCE SYMBOLcYA LAMPcZZY FACEgSYMBOLbLE",
    "bNA DOUBLE HELIXbO NOT LITTER SYMBOLcCUMENTi WITH PICTUREoTEXTs AND PICTUREcDOcES NOT CONTAIN AS MEMBERuNORMAL SUBGROUP",
    "zk OR EQUALjDIVIDEp WITH REVERSED NEGATION SLASHjFORCEjPRECEDEq OR EQUALlOVEjSUCCEEDq OR EQUALcGd FACE",
    "dRA ABBREVIATION SIGNgLETTER AoAoIoUnBAoHAnCAoHAnDAoDApHAoHAnEnGAoHAnHAnIoInJAoHAnKAoHAnLAnMAnNAoGAoNAoYAnOnPAoHAnRAoRAnSA",
    "oHAoSAnTAoHAoTApHAnUoUnVAnYAgSIGN ANUSVARAlNUKTAlVIRAMAnSARGAgVOWEL SIGN AAsIsUrErIsIrOrUsUrVOCALIC RzbRcLLAR SIGNdPHIN",
    "cMINO TILE HORIZONTAL BACKw-00-00zc1zc2zc3zc4zc5zc6y1-00zc1zc2zc3zc4zc5zc6y2-00zc1zc2zc3zc4zc5zc6y3-00zc1zc2zc3zc4zc5zc6",
    "y4-00zc1zc2zc3zc4zc5zc6y5-00zc1zc2zc3zc4zc5zc6y6-00zc1zc2zc3zc4zc5zc6mVERTICAL BACKu-00-00za1za2za3za4za5za6w1-00za1za2za3",
    "za4za5za6w2-00za1za2za3za4za5za6w3-00za1za2za3za4za5za6w4-00za1za2za3za4za5za6w5-00za1za2za3za4za5za6w6-00za1za2za3za4za5",
    "za6cNG SIGNcORcT ABOVEeMINUSeOPERATORePLUSdTED CIRCLEiROSShFENCEhLINE FACEhOBELOShRIGHT-POINTING ANGLEhSOLIDUSiQUARE",
    "hTRANSPOSITION MARKERcUBLE ACUTE ACCENThCIRCLED DIGIT EIGHTvFIVEwOURvNINEvONEvSEVENwIXvTHREEwWOpNUMBER TENiOLON EQUAL",
    "iURLY LOOPhDAGGERiOWN TACKhEXCLAMATION MARKhHIGH-REVERSED-9 QUOTATION MARKiYPHENhINTEGRALlRSECTION",
    "hLEFT ARC GREATER-THAN BRACKETiOGICAL ANDpORjW LINEk-9 QUOTATION MARKlREVERSED-9 QUOTATION MARKhNESTED GREATER-THAN",
    "oLESS-THANx WITH UNDERBARhOBLIQUE HYPHENhPLUSiRECEDESjIMEm QUOTATION MARKhQUESTION MARKhRIGHT ARC LESS-THAN BRACKET",
    "hSOLIDUS OPERATORiQUARE INTERSECTIONoUNIONiTACKED COMMAjROKE NOT SIGNiUBSETjCCEEDSjPERSETjSPENSION MARKhUNIONiP TACK",
    "hVERTICAL BARt DOUBLE LEFT TURNSTILEzcRIGHT TURNSTILEuLEFT TURNSTILEqLINEhWAVY OVERLINEg-ENDED MULTIMAP",
    "hLINE EQUAL TO OR GREATER-THANyLESS-THANmSLANTED EQUAL TO OR GREATER-THANzhLESS-THANuGREATER-THAN OR EQUAL TO",
    "uLESS-THAN OR EQUAL TOhSTRUCK CAPITAL CwGAMMAwHwNwPxIwQwRwZoITALIC CAPITAL DvSMALL DzcEzcIzcJoN-ARY SUMMATIONoSMALL GAMMA",
    "uPIgD FEMALE SIGNiMALE SIGNiSYMBOLdGHNUTcVE OF PEACEcWN ARROWHEADfFISH TAILfRIGHT DIAGONAL ELLIPSISfTACK",
    "j WITH CIRCLE BELOWe-POINTING RED TRIANGLEoSMALL RED TRIANGLEoTRIANGLE WITH LEFT HALF BLACKzdRIGHT HALF BLACK",
    "eWARD FACING HOOKu WITH DOTqNOTCHED HOOKzd WITH DOTiS ANCORAlRROWp AND RIGHT ONE EIGHTH BLOCKqFROM BAR",
    "qLEFTWARDS OF UPWARDS ARROWqTO BARqWITH CORNER LEFTWARDSvDOUBLE STROKEvEQUILATERAL ARROWHEADvHORIZONTAL STROKE",
    "vLARGE TRIANGLE ARROWHEADvMEDIUM TRIANGLE ARROWHEADvNOTCHED TAILvSMALL EQUILATERAL ARROWHEADzcTRIANGLE ARROWHEAD",
    "vTIP LEFTWARDSzaRIGHTWARDSkBLACK ARROWqCIRCLED WHITE ARROWkCOMPRESSED ARROWkDASHED ARROWlOUBLE ARROWkFINGER-POST ARROW",
    "kHARPOON WITH BARB LEFT BESIDE DOWNWARDS HARPOON WITH BARB RIGHTzpUPWARDS HARPOON WITH BARB RIGHTziFROM BARziTO BARzhWARDS",
    "zdRIGHT FROM BARzjTO BARziWARDSlEAVY ARROWqCOMPRESSED ARROWkPAIRED ARROWSkQUADRUPLE ARROWkROCKETkSANS-SERIF ARROW",
    "lQUARED ARROWkTRIANGLE ARROWHEADs-HEADED ARROWzg LEFTWARDS OF UPWARDS TRIANGLE-HEADED ARROWzhTO BARzhWITH BOLD SHAFT",
    "zmDOUBLE HORIZONTAL STROKEzmHEAVY SHAFTzmLONG TIP LEFTWARDSzvRIGHTWARDSzmMEDIUM SHAFTzmNARROW SHAFTzmVERY HEAVY SHAFT",
    "zbDASHED ARROWzbPAIRED ARROWSzbZIGZAG ARROWnPLE ARROWlWO HEADED ARROWn-HEADED ARROW WITH TRIANGLE ARROWHEADSkWHITE ARROW",
    "v WITHIN TRIANGLE ARROWHEADkZIGZAG ARROWbRACHMA SIGNdFTING POINT RIGHTWARDS ARROWdGONg FACEcESScIVE SLOW SIGN",
    "cOMEDARY CAMELdOLING FACEdP OF BLOODeLETcUM WITH DRUMSTICKSbUCKcMPLINGcPLOYAN AFFIX ATTACHED E HOOKyI HOOK",
    "yLEFT-TO-RIGHT SECANTySECANTyTAILzbNGENTzg HOOKpHIGH ACUTEuCIRCLEuDOTuGRAVEuLINEvONG GRAVEuTIGHT ACUTEuVERTICALzd SECANT",
    "uWAVEpLEFT HORIZONTAL SECANTqOW ACUTEuRROWtCIRCLEtDOTtGRAVEtLINEuONG GRAVEtTIGHT ACUTEtVERTICALzc SECANTtWAVE",
    "pMID HORIZONTAL SECANTtVERTICAL SECANTpRIGHT HORIZONTAL SECANTjDOUBLE MARKjLETTER ArOUqBqDr SrHqErErUqFr NqGr R SqHrLqIrE",
    "qJr Mt SsNt SsSt WITH DOTsWITH DOTzbS INSIDE AND ABOVEqKr MsR SrKqLrHrONG IvUqMr Nt SsSsWITH DOTqNr Mt SsSsWITH DOTrASAL A",
    "wIwOwUqOrArOHrUrWqPr NrERNIN AMyNqRr SrHrOMANIAN IzaUqSr Jt SsKt RsMsNsPt RsSsTt RsWITH DOTzb BELOWrHORT IrLOAN ANwDHwEExH",
    "xNwJwONxWwUqTr R SsSrHqUr NrHrIqVrOCALIC MqWr RrArEIrHrIrOsWqXrWqYEjPUNCTUATION CHINOOK FULL STOPjSIGN O WITH CROSS",
    "jTHICK LETTER SELECTORbVDaE-MAIL SYMBOLbAGLEcRd OF MAIZEhRICEeWITH HEARING AIDdTHf GLOBE AMERICASnSIA-AUSTRALIA",
    "mEUROPE-AFRICAhROUNDcST SYRIAC CROSSbDITORIAL CORONISbGGcYPTIAN HIEROGLYPH A001x2x3x4x5yAx6yAyBx7x8x9w10x1x2x3x4yAx5x6x7yA",
    "x8x9w20x1x2x3x4x5x6x7x8x9w30x1x2yAx3x4x5x6x7x8x9w40yAx1x2yAx3yAx4x5yAx6x7x8x9w50x1x2x3x4x5x6x7x8x9w60x1x2x3x4x5x6x7x8x9w70",
    "vA001y2y3y4y5y6y7zaAzaBy8y9x10y1y2y3y4y5y6y7y8y9x20y1y2y3y4y5y6y7y8y9x30y1y2uB001x2x3x4x5yAx6x7x8x9vEGIN SEGMENTuC001x2yA",
    "yByCx3x4x5x6x7x8x9w10yAx1x2x3x4x5x6x7x8x9w20x1x2x3x4uD001x2x3x4x5x6x7x8yAx9w10x1x2x3x4x5x6x7x8x9w20x1x2x3x4x5x6x7yAx8x9w30",
    "x1yAx2x3x4yAx5x6x7x8x9w40x1x2x3x4x5x6yAx7x8yAx9w50yAyByCyDyEyFyGyHyIx1x2yAx3x4yAx5x6x7x8x9w60x1x2x3x4x5x6x7yAyByCyDyEyFyG",
    "yHuE001x2x3x4x5x6x7x8yAx9yAw10x1x2x3x4x5x6yAx7yAx8x9w20yAx1x2x3x4x5x6x7x8yAx9w30x1x2x3x4yAx6x7x8vND SEGMENTuF001yAx2x3x4x5",
    "x6x7x8x9w10x1x2x3yAx4x5x6x7x8x9w20x1yAx2x3x4x5x6x7x8x9w30x1yAx2x3x4x5x6x7yAx8yAx9w40x1x2x3x4x5yAx6yAx7yAx8x9w50x1yAyByCx2",
    "x3uG001x2x3x4x5x6yAx7yAyBx8x9w10x1yAx2x3x4x5x6x7x8x9w20yAx1x2x3x4x5x6yAx7x8x9w30x1x2x3x4x5x6yAx7yAx8x9w40x1x2x3yAx4x5yAx6",
    "x7x8x9w50x1x2x3x4uH001x2x3x4x5x6yAx7x8vORIZONTAL JOINERuI001x2x3x4x5yAx6x7x8x9yAw10yAx1yAx2x3x4x5vNSERT AT BOTTOM END",
    "zmSTARTzfTOP ENDzjSTARTuK001x2x3x4x5x6x7x8uL001x2yAx3x4x5x6yAx7x8uM001yAyBx2x3yAx4x5x6x7x8x9w10yAx1x2yAyByCyDyEyFyGyHx3x4",
    "x5yAx6yAx7yAx8x9w20x1x2yAx3x4yAx5x6x7x8yAx9w30x1yAx2x3yAyBx4x5x6x7x8x9w40yAx1x2x3x4uN001x2x3x4x5x6x7x8x9w10x1x2x3x4x5x6x7",
    "x8yAyBx9w20x1x2x3x4x5yAx6x7x8x9w30x1x2x3yAx4yAx5yAx6x7yAx8x9w40x1x2vL001y2y3y4y5zaAy6y7y8y9x10y1y2y3y4y5y6y7zaAy8y9x20",
    "vU001y2y3y4y5y6y7y8y9x10zaAy1zaAy2y3y4y5y6y7y8zaAy9x20y1y2zaAuO001yAx2x3x4x5yAx6yAyByCyDyEyFx7x8x9w10yAyByCx1x2x3x4x5x6x7",
    "x8x9yAw20yAx1x2x3x4yAx5yAx6x7x8x9yAw30yAx1x2x3yAx4x5x6yAyByCyDx7x8x9w40x1x2x3x4x5x6x7x8x9w50yAyBx1vVERLAY MIDDLEuP001yAx2",
    "x3yAx4x5x6x7x8x9w10x1uQ001x2x3x4x5x6x7uR001x2yAx3yAyBx4x5x6x7x8x9w10yAx1x2x3x4x5x6yAx7x8x9w20x1x2x3x4x5x6x7x8x9uS001x2yAx3",
    "x4x5x6yAx7x8x9w10x1x2x3x4yAyBx5x6x7yAx8x9w20x1x2x3x4x5x6yAyBx7x8x9w30x1x2x3x4x5yAx6x7x8x9w40x1x2x3x4x5x6uT001x2x3yAx4x5x6",
    "x7yAx8yAx9yAw10x1yAx2x3x4x5x6yAx7x8x9w20x1x2x3x4x5x6x7x8x9w30x1x2yAx3yAx4x5x6uU001x2x3x4x5x6yAyBx7x8x9w10x1x2x3x4x5x6x7x8",
    "x9w20x1x2x3yAx4x5x6x7x8x9yAw30x1x2yAx3x4x5x6x7x8x9w40x1x2uV001yAyByCyDyEyFyGyHyIx2yAx3x4x5x6x7yAyBx8x9w10x1yAyByCx2yAyBx3",
    "x4x5x6x7x8x9w20yAyByCyDyEyFyGyHyIyJyKyLx1x2x3yAx4x5x6x7x8yAx9yAw30yAx1yAx2x3yAx4x5x6x7yAx8x9w40yAvERTICAL JOINERuW001x2x3",
    "yAx4x5x6x7x8x9yAw10yAx1x2x3x4yAx5x6x7yAx8yAx9w20x1x2x3x4yAx5uX001x2x3x4yAyBx5x6yAx7x8yAuY001yAx2x3x4x5x6x7x8uZ001x2yAyByC",
    "yDx3yAyBx4yAx5yAx6x7x8x9w10x1x2x3x4x5yAyByCyDyEyFyGyHyIx6yAyByCyDyEyFyGyHbIGHT PETALLED OUTLINED BLACK FLORETTE",
    "hOINTED BLACK STARoPINWHEEL STARoRECTILINEAR BLACK STARgSPOKED ASTERISKgTEARDROP-SPOKED PROPELLER ASTERISKfH NOTE",
    "bJECT SYMBOLbLBASAN LETTER ApBEpCEqHEpDEqHEpEqIpFEpGEqHAMMArEqJEpHEpIpJEpKEqHEpLEqLEpMEpNAqDEqEqJEpOpPEpQEpREqREpSEqHEpTE",
    "qHEpUpVEpXEpYpZEqHEcECTRIC ARROWjLIGHT BULBjPLUGjTORCHiAL INTERSECTIONdMENT OFk OPENING DOWNWARDStUPWARDSlWITH DOT ABOVE",
    "qLONG HORIZONTAL STROKEqOVERBARqTWO HORIZONTAL STROKESqUNDERBARqVERTICAL BAR AT END OF HORIZONTAL STROKEdPHANTdVATORcF",
    "cYMAIC LETTER ALEPHqYINpBETHpDALETHpGIMELpHErTHpKAPHpLAMEDHpMEMpNUNpPEpQOPHpRESHpSADHErMEKHqHINpTAWqETHpWAWpYODHpZAYIN",
    "jIGATURE ZAYIN-YODHbM DASHdQUADdSPACEcOJI COMPONENT BALDqCURLY HAIRqRED HAIRqWHITE HAIRgMODIFIER FITZPATRICK TYPE-1-2zh3",
    "zh4zh5zh6cPHASIS SYMBOLdTY DOCUMENTgNESThOTEk PADnGEgPAGEkSgSETj WITH LEFT ARROW ABOVEpOVERBARpRIGHT ARROW ABOVE",
    "pSMALL CIRCLE ABOVEbN DASHdQUADdSPACEcD OF GUARDED AREAhLINEhMEDIUMhPROOFkTECTED AREAhSELECTED AREAhTEXTiRANSMISSION",
    "t BLOCKeWITH LEFTWARDS ARROW ABOVEcQdUIRYcTER SYMBOLcVELOPEi WITH DOWNWARDS ARROW ABOVEoLIGHTNINGbOLcMcTbPA",
    "bQUAL AND PARALLEL TOgTO BY DEFINITIONjOR GREATER-THANmLESS-THANmPRECEDESmSUCCEEDSfS COLONhSIGNl ABOVE LEFTWARDS ARROW",
    "sPLUS SIGNsRIGHTWARDS ARROWsTILDE OPERATORnND SLANTED PARALLELzh WITH TILDE ABOVEmWITH BUMPY ABOVErDOT BELOW",
    "rINFINITY BELOWrTWO DOTS ABOVE AND TWO DOTS BELOWhWITH ASTERISKdIANGULAR TOeVALENT TOlWITH FOUR DOTS ABOVE",
    "bRASE TO THE LEFTnRIGHTcIS FORM ONEkTWOcROR-BARRED BLACK CIRCLEtDIAMONDtSQUAREnWHITE CIRCLEtDIAMONDtSQUAREbSAcCdAPE",
    "cTIMATED SYMBOLiSbTBcHIOPIC COLONlMBINING GEMINATION AND VOWEL LENGTH MARKzfMARKtVOWEL LENGTH MARKmMAjDIGIT EIGHTpFIVEqOUR",
    "pNINEpONEpSEVENqIXpTHREEqWOjFULL STOPjNUMBER EIGHTYqFIFTYrORTYqHUNDREDqNINETYqSEVENTYrIXTYqTENt THOUSANDrHIRTYrWENTY",
    "jPARAGRAPH SEPARATORkREFACE COLONjQUESTION MARKjSECTION MARKlMICOLONkYLLABLE BAuAtBAvAuEvEuIuOuUtEuEtItOuAtUtWAuEvEuIsCAuA",
    "tCAvAuEvEuHAwAvEwEvHAxAwExEwIwOwUvIvOvUuIuOuUtEuEtHAvAuEvEuIuOvAuUuWAtItOuAtUtWAsDAuAtDAvAuEvEuHAAvEwEvIvOvUuIuOvAuUuWAtE",
    "uEtItOuAtUtWAtZAAuEvEuIuOuUsFAuAtEuEtItOtUtWAuEvEuItYAsGAuAtEuEtGAvAuEvEuIuOuUuWAwAvEwEvItItLOTTAL AzcAzbEzcEzbIzbOzcAzbU",
    "zbWAtOuAtUuRAGE BWEEzcIzaFWEEzcIzaGWEzdEzcIzaHHWAzaKWEzdEzcIzaMWEEzcIzaPWEEzcIzaQWEzdEzcItWAvAuEvEuItYAvAuEvEuIuOuUsHAuAtE",
    "uEtHAvAuEvEuIuOuUuWAvEwEvIuYAwAvEwEvIvOvUtItOuAtUsJAuAtEuEtItOuAtUtWAsKAuAtEuEtItOuAtUtWAvAuEvEuItXAvAuEvEuIuOuUuWAwAvEwE",
    "vItYAvAuEvEuIuOuUsLAuAtEuEtItOuAtUtWAsMAuAtEuEtItOuAtUtWAuEvEuItYAsNAuAtEuEtItOuAtUtWAtYAvAuEvEuIuOvAuUuWAsPAuAtEuEtHAvA",
    "vRYNGEAL AzfAzeEzfEzeIzeOzeUuEvEuIuOvAuUuWAtItOuAtUtWAuEvEuIsQAuAtEuEtHAvAuEvEuIuOuUuWAwAvEwEvItItOuAtUtWAvAuEvEuItYAvAuE",
    "vEuIuOuUsRAuAtEuEtItOuAtUtWAtYAsSAuAtEuBATBEIT BWAzdFWAzdMWAzdPWAuEtHAvAuEvEuIuOvAuUuWAtItOuAtSAvAuEvEuIuOuUtUtWAtZAvAuEvE",
    "uIuOuUuWAsTAuAtEuEtHAvAuEvEuIuOvAuUuWAtItOuAtSAvAuEvEuIuOuUuWAtTHAAvEwEvIvOvUtUtWAtZAvAuEvEuIuOvAuUsVAuAtEuEtItOtUtWAsWAuA",
    "tEuEtItOuAtUsXAuAtEuEtItOuAtUtWAvAuEvEuItYAvAuEvEuIuOuUsYAuAtEuEtItOuAtUsZAuAtEuEtHAvAuEvEuIuOuUuWAtItOuAtUtWAtZAvAuEvEuI",
    "uOuUjTONAL MARK CHIRETuDERETza-HIDETvIFATuHIDETuKENATvURTuRIKRIKuSHORT RIKRIKuYIZETjWORDSPACEcXbULER CONSTANTcRO SIGN",
    "e-CURRENCY SIGNePEAN CASTLEjPOST OFFICEbVERGREEN TREEbXCESSdLAMATION MARKmQUESTION MARKcPRESSIONLESS FACE",
    "cTENDED ARABIC-INDIC DIGIT EIGHTzdFIVEzeOURzdNINEzdONEzdSEVENzeIXzdTHREEzeWOzdZEROdRATERRESTRIAL ALIEN",
    "eEMELY HEAVY FIVE SPOKED ASTERISKqGREEK CROSSqSALTIRErIX SPOKED ASTERISKqWHITE CIRCLEwSQUAREbYEdGLASSESdS",
    "aFACE HOLDING BACK TEARSfMASSAGEfPALMfSAVOURING DELICIOUS FOODgCREAMING IN FEARfTHROWING A KISSfWITH COLD SWEATmWBOY HAT",
    "kDIAGONAL MOUTHkFINGER COVERING CLOSED LIPSkHEAD-BANDAGEkLOOK OF TRIUMPHkMEDICAL MASKlONOCLEkNO GOOD GESTUREkOK GESTURE",
    "lNE EYEBROW RAISEDlPEN EYES AND HAND OVER MOUTHpMOUTHu AND COLD SWEATvVOMITINGkPARTY HORN AND PARTY HATlEEKING EYE",
    "lLEADING EYESkROLLING EYESkSTUCK-OUT TONGUEzb AND TIGHTLY-CLOSED EYESzgWINKING EYEkTEARS OF JOYlHERMOMETER",
    "kUNEVEN EYES AND WAVY MOUTHjOUT MOUTHdSIMILE SIGNdTORYcIRYcLAFELdLEN LEAFeING DIAGONAL CROSSING NORTH EAST ARROW",
    "zbRISING DIAGONALrIN WHITE CIRCLE IN BLACK SQUAREcMILYcRSI SYMBOLcTHER CHRISTMAScX ICONeMACHINEbEARFUL FACEdTHERcMALE SIGN",
    "dININE ORDINAL INDICATORcNCERcRRIS WHEELeYbFbIELD HOCKEY STICK AND BALLcGURE DASHhSPACEcLE CABINETfFOLDERfSEPARATOR",
    "dM FRAMESfPROJECTORcNITE PART INTEGRALcREe ENGINEgXTINGUISHEReCRACKEReWORK SPARKLERiSdST PLACE MEDALgQUARTER MOONs SYMBOL",
    "tWITH FACEgSTRONG ISOLATEcSHe CAKE WITH SWIRL DESIGNeEYEeING POLE AND FISHdTED HAND SIGNcVE DOT MARKjPUNCTUATION",
    "bLAG IN HOLEdMINGOdT SHOEeBREADeNESScEUR-DE-LISdXED BICEPScOPPY DISKdRAL HEARTdWERg PLAYING CARDSiUNCTUATION MARK",
    "cUSHED FACEcYdING DISChENVELOPEhSAUCERbOGdGYcLDERcNDUEcOTePRINTScR ALLdCESdK AND KNIFEo WITH PLATEeED PARAGRAPHOSeING",
    "dM FEEDdTUNE COOKIEcUNTAINdR BALLOON-SPOKED ASTERISKfCLUB-SPOKED ASTERISKgORNER ARROWS CIRCLING ANTICLOCKWISEfDOT MARK",
    "jPUNCTUATIONfLEAF CLOVERfPOINTED BLACK STARfTEARDROP-SPOKED ASTERISKe-PER-EM SPACEeTH ROOTcX FACEbRACTION NUMERATOR ONE",
    "jSLASHdME WITH AN XlPICTURElTILEScEEZING FACEdNCH FRANC SIGNjIEScIED SHRIMPcOG FACEdNT-FACING BABY CHICK",
    "gTILTED SHADOWED WHITE RIGHTWARDS ARROWdWNfING FACE WITH OPEN MOUTHbScIbUEL PUMPcLL BLOCKfMOON SYMBOLkWITH FACEfOUTER JOIN",
    "fSTOPeWIDTH AMPERSANDlPOSTROPHElSTERISKkBROKEN BARkCENT SIGNlIRCUMFLEX ACCENTlOLONmMMAoERCIAL ATkDIGIT EIGHTqFIVErOURqNINE",
    "qONEqSEVENrIXqTHREErWOqZEROlOLLAR SIGNkEQUALS SIGNlXCLAMATION MARKkFULL STOPkGRAVE ACCENTmEATER-THAN SIGNkHYPHEN-MINUS",
    "kLATIN CAPITAL LETTER AzgBzgCzgDzgEzgFzgGzgHzgIzgJzgKzgLzgMzgNzgOzgPzgQzgRzgSzgTzgUzgVzgWzgXzgYzgZqSMALL LETTER AzeBzeCzeD",
    "zeEzeFzeGzeHzeIzeJzeKzeLzeMzeNzeOzePzeQzeRzeSzeTzeUzeVzeWzeXzeYzeZlEFT CURLY BRACKETpPARENTHESISpSQUARE BRACKET",
    "pWHITE PARENTHESISmSS-THAN SIGNlOW LINEkMACRONkNOT SIGNlUMBER SIGNkPERCENT SIGNlLUS SIGNlOUND SIGNkQUESTION MARK",
    "mOTATION MARKkREVERSE SOLIDUSlIGHT CURLY BRACKETqPARENTHESISqSQUARE BRACKETqWHITE PARENTHESISkSEMICOLONlOLIDUSkTILDE",
    "kVERTICAL LINEkWON SIGNkYEN SIGNcNCTION APPLICATIONdERAL URNcSEbVS1d2d3d4aGAME DIEcRLICbEARe WITH HANDLESjOUT HUBcM STONE",
    "dINIcNIEcOMETRIC PROPORTIONjALLY EQUAL TOrIVALENT TOdRGIAN CAPITAL LETTER AENzaNyBANyCANzaHARzbINzaILyDONyENyGANzaHANyHAE",
    "zbRzaEzaIEzaOEyINyJHANzaILyKANzaHARyLASyMANyNARyONyPARzaHARyQARyRAEySANzaHINyTANzbRyUNyVINyWEyXANyYNyZENzaHARjLETTER AEN",
    "rINrNqBANqCANrHARsINrILqDONqELIFIrNqFIqGANrHANqHAEsRtD SIGNrErIErOEqINqJHANrILqKANrHARqLABIAL SIGNsSqMANqNARqONqPARrHAR",
    "qQARqRAEqSANrHINqTANsRrURNED GANqUNqVINqWEqXANqYNqZENrHARjMTAVRULI CAPITAL LETTER AENzjINzjNziBANziCANzjHARzkINzjILziDON",
    "ziELIFIzjNziFIziGANzjHANziHAEzkRzlD SIGNzjEzjIEzjOEziINziJHANzjILziKANzjHARziLABIAL SIGNzkSziMANziNARziONziPARzjHARziQAR",
    "ziRAEziSANzjHINziTANzkRzjURNED GANziUNziVINziWEziXANziYNziZENzjHARjPARAGRAPH SEPARATORjSMALL LETTER AENxNwBANwCANxHARyIN",
    "xILwDONwENwGANxHANwHAEyRxExIExOEwINwJHANxILwKANxHARwLASwMANwNARwONwPARxHARwQARwRAEwSANxHINwTANyRwUNwVINwWEwXANwYNwZENxHAR",
    "cRMAN PENNY SIGNcTA MARKbHOSTbIMEL SYMBOLcRAFFE FACEdLeS SYMBOLbLAGOLITIC CAPITAL LETTER AZUzbBIG YUSzcUKYzbCAUDATE CHRIVI",
    "zcHRIVIzbDJERVIzcOBROzcZELOzbFITAzcRITUzbGLAGOLIzbHERUzbIzcNITIAL IZHEzcOTATED BIG YUSzjSMALL YUSzcZHEzeITSAzbKAKO",
    "zbLATINATE MYSLITEzcJUDIJEzbMYSLITEzbNASHIzbONUzcTUzbPEzcOKOJIzbRITSIzbSHAzdTAzfPICzcLOVOzcMALL YUSzk WITH TAILzcPIDERY HA",
    "zbTROKUTASTI AzcSIzcVRIDOzbUKUzbVEDEzbYATIzcERIzeUzdSTUzcOzcUzbZEMLJAzcHIVETElSMALL LETTER AZUyBIG YUSzaUKYyCAUDATE CHRIVI",
    "zaHRIVIyDJERVIzaOBROzaZELOyFITAzaRITUyGLAGOLIyHERUyIzaNITIAL IZHEzaOTATED BIG YUSzhSMALL YUSzaZHEzcITSAyKAKO",
    "yLATINATE MYSLITEzaJUDIJEyMYSLITEyNASHIyONUzaTUyPEzaOKOJIyRITSIySHAzbTAzdPICzaLOVOzaMALL YUSzi WITH TAILzaPIDERY HA",
    "yTROKUTASTI AzaSIzaVRIDOyUKUyVEDEyYATIzaERIzcUzbSTUzaOzaUyZEMLJAzaHIVETEdSS OF MILKcEICH STARKcOBE WITH MERIDIANSdVES",
    "dWING STARbOAL NETdTcGGLEScLFERcRILLAcTHIC LETTER AHSApIHVUSoBAIRKANoDAGSoEISoFAIHUoGIBAoHAGLpWAIRoIGGWSpUJAoJERoKUSMA",
    "oLAGUSoMANNAoNAUTHSpINE HUNDREDsTYoOTHALoPAIRTHRAoQAIRTHRAoRAIDAoSAUILoTEIWSpHIUTHoURUSoWINJAbRADUATION CAP",
    "dNTHA AU LENGTH MARKiLETTER AqAqIqUpBAqHApCAqHApDAqDArHAqHApEEpGAqHApHApIqIpJAqHApKAqHApLAqLApMApNAqGAqNAqYApOOpPAqHApRA",
    "pSAqHAqSApTAqHAqTArHApUqUpVAqEDIC ANUSVARAvDOUBLE ANUSVARAqOCALIC LyLxRyRpYAiOMiSIGN ANUSVARAoVAGRAHAnCANDRABINDU",
    "oOMBINING ANUSVARA ABOVEnNUKTAnPLUTAnVIRAMApSARGAiVOWEL SIGN AAuIuUtEEtIuItOOtUuUtVOCALIC LzdLzcRzdRdPESdVE ACCENT",
    "cEATER-THAN ABOVE DOUBLE-LINE EQUAL ABOVE LESS-THANtLESS-THAN ABOVE DOUBLE-LINE EQUALtRIGHTWARDS ARROW",
    "tSIMILAR ABOVE LESS-THANzcOR EQUALuLANTED EQUAL ABOVE LESS-THAN ABOVE SLANTED EQUALoND NOT APPROXIMATE",
    "rSINGLE-LINE NOT EQUAL TOnBESIDE LESS-THANoUT NOT EQUAL TOyIVALENT TOnCLOSED BY CURVEzd ABOVE SLANTED EQUAL",
    "nEQUAL TO OR LESS-THANnOR APPROXIMATEqEQUAL TOtIVALENT TOqLESS-THANqSLANTED EQUAL TOzh WITH DOT ABOVEzw LEFTzrINSIDE",
    "oVER EQUAL TOrLAPPING LESS-THANnSIGNnWITH CIRCLE INSIDEsDOTsQUESTION MARK ABOVEdEK ACROPHONIC ATTIC FIFTYzd STATERS",
    "zeTALENTSzfHOUSANDzm STATERSzaVEzc HUNDREDzk STATERSzlTALENTSzdSTATERSzdTALENTSzeHOUSANDzl TALENTSxONE DRACHMAzcHALF",
    "zdUNDRED STATERSzkTALENTSzcQUARTERzcTHOUSAND STATERSzlTALENTSxTEN MNASzcSTATERSzcTALENTSzdHOUSAND STATERS",
    "rCARYSTIAN FIVE HUNDREDsYRENAIC TWO DRACHMASrDELPHIC FIVE MNASrEPIDAUREAN FIVE HUNDREDzdTWOzg DRACHMAS",
    "rHERAEUM ONE PLETHRONuMIONIAN FIFTYzdONEzdTENrMESSENIAN TENrNAXIAN FIVE HUNDREDrSTRATIAN FIFTY MNASrTHESPIAN FIFTY",
    "zdVE HUNDREDzgTHOUSANDzbONEze HUNDREDzfTHOUSANDzbTENzcHIRTYzdREE HUNDREDzcWOsROEZENIAN FIFTYzi ALTERNATE FORMzfVE",
    "zh HUNDREDzdTENzg ALTERNATE FORMhNO TELEIAhROURA SIGNiTABE SIGNgBETA SYMBOLgCAPITAL DOTTED LUNATE SIGMA SYMBOLoKAI SYMBOL",
    "oLETTER ALPHAzb WITH DASIAzm AND OXIAzv AND PROSGEGRAMMENIzrPERISPOMENIzzd AND PROSGEGRAMMENIzsROSGEGRAMMENIzrVARIA",
    "zw AND PROSGEGRAMMENIzhMACRONzhOXIAzhPROSGEGRAMMENIziSILIzm AND OXIAzv AND PROSGEGRAMMENIzrPERISPOMENI",
    "zzd AND PROSGEGRAMMENIzsROSGEGRAMMENIzrVARIAzw AND PROSGEGRAMMENIzhTONOSzhVARIAziRACHYwRCHAIC SAMPIvBETAvCHIvDELTAvEPSILON",
    "zd WITH DASIAzo AND OXIAztVARIAzjOXIAzjPSILIzo AND OXIAztVARIAzjTONOSzjVARIAwTAy WITH DASIAzk AND OXIA",
    "zt AND PROSGEGRAMMENIzpPERISPOMENIzzb AND PROSGEGRAMMENIzqROSGEGRAMMENIzpVARIAzu AND PROSGEGRAMMENIzfOXIAzfPROSGEGRAMMENI",
    "zgSILIzk AND OXIAzt AND PROSGEGRAMMENIzpPERISPOMENIzzb AND PROSGEGRAMMENIzqROSGEGRAMMENIzpVARIAzu AND PROSGEGRAMMENI",
    "zfTONOSzfVARIAvGAMMAvHETAvIOTAza WITH DASIAzl AND OXIAzqPERISPOMENIzqVARIAzhIALYTIKAzgMACRONzgOXIAzgPSILIzl AND OXIA",
    "zqPERISPOMENIzqVARIAzgTONOSzgVARIAzhRACHYvKAPPAvLAMDAvMUvNUvOMEGAzb WITH DASIAzm AND OXIAzv AND PROSGEGRAMMENI",
    "zrPERISPOMENIzzd AND PROSGEGRAMMENIzsROSGEGRAMMENIzrVARIAzw AND PROSGEGRAMMENIzhOXIAzhPROSGEGRAMMENIziSILIzm AND OXIA",
    "zv AND PROSGEGRAMMENIzrPERISPOMENIzzd AND PROSGEGRAMMENIzsROSGEGRAMMENIzrVARIAzw AND PROSGEGRAMMENIzhTONOSzhVARIAxICRON",
    "zd WITH DASIAzo AND OXIAztVARIAzjOXIAzjPSILIzo AND OXIAztVARIAzjTONOSzjVARIAvPAMPHYLIAN DIGAMMAwHIwIwSIvRHOy WITH DASIA",
    "vSANwHOwIGMAvTAUwHETAvUPSILONzd WITH DASIAzo AND OXIAztPERISPOMENIztVARIAzkIALYTIKAzjMACRONzjOXIAzjTONOSzjVARIAzkRACHYvXI",
    "vYOTvZETApUNATE SIGMA SYMBOLoREVERSED DOTTED LUNATE SIGMA SYMBOLxLUNATE SIGMA SYMBOLoTHETA SYMBOLgDASIAl AND OXIA",
    "qPERISPOMENIqVARIAhIALYTIKA AND OXIAuPERISPOMENIuVARIAqTONOShRACHMA SIGNgFIVE OBOLS SIGNhOUR OBOLS SIGNgGRAMMA SIGN",
    "gINDICTION SIGNiSTRUMENTAL NOTATION SYMBOL-1zl1zl2zl3zl4zl7zl8zl9zk2zl3zl4zl5zl6zl7zl9zk30zl2zl6zl7zl8zl9zk4zl0zl2zl3zl5",
    "zl7zl8zl9zk5zl0zl1zl2zl3zl4zk7zk8gKAI SYMBOLiPPA SYMBOLhORONIShYATHOS BASE SIGNgLETTER ARCHAIC KOPPAnDIGAMMAnKOPPAnSAMPI",
    "oMALL CAPITAL GAMMAzcLAMDAzcOMEGAzcPIzdSIzcRHOoTIGMAnYOThITRA SIGNhOWER NUMERAL SIGNhUNATE EPSILON SYMBOLnSIGMA SYMBOL",
    "gMETRETES SIGNhUSICAL LEIMMAgNUMERAL SIGNgOBOL SIGNhNE HALF SIGNt ALTERNATE FORMkQUARTER SIGNhUNKIA SIGNhXIAgPERISPOMENI",
    "hHI SYMBOLhI SYMBOLhROSGEGRAMMENIhSILIl AND OXIAqPERISPOMENIqVARIAgQUESTION MARKgREVERSED LUNATE EPSILON SYMBOLhHO SYMBOL",
    "kWITH STROKE SYMBOLgSINUSOID SIGNhMALL DOTTED LUNATE SIGMA SYMBOLmLETTER ALPHAy WITH DASIAzk AND OXIAzt AND YPOGEGRAMMENI",
    "zpPERISPOMENIzzb AND YPOGEGRAMMENIzpVARIAzu AND YPOGEGRAMMENIzpYPOGEGRAMMENIzfMACRONzfOXIAzj AND YPOGEGRAMMENI",
    "zfPERISPOMENIzq AND YPOGEGRAMMENIzgSILIzk AND OXIAzt AND YPOGEGRAMMENIzpPERISPOMENIzzb AND YPOGEGRAMMENIzpVARIA",
    "zu AND YPOGEGRAMMENIzpYPOGEGRAMMENIzfTONOSzfVARIAzk AND YPOGEGRAMMENIzgRACHYzfYPOGEGRAMMENIuRCHAIC KOPPAzcSAMPItBETAtCHI",
    "tDELTAuIGAMMAtEPSILONzb WITH DASIAzm AND OXIAzrVARIAzhOXIAzhPSILIzm AND OXIAzrVARIAzhTONOSzhVARIAuTAw WITH DASIA",
    "zi AND OXIAzr AND YPOGEGRAMMENIznPERISPOMENIzy AND YPOGEGRAMMENIznVARIAzs AND YPOGEGRAMMENIznYPOGEGRAMMENIzdOXIA",
    "zh AND YPOGEGRAMMENIzdPERISPOMENIzo AND YPOGEGRAMMENIzeSILIzi AND OXIAzr AND YPOGEGRAMMENIznPERISPOMENI",
    "zy AND YPOGEGRAMMENIznVARIAzs AND YPOGEGRAMMENIznYPOGEGRAMMENIzdTONOSzdVARIAzi AND YPOGEGRAMMENIzdYPOGEGRAMMENI",
    "tFINAL SIGMAtGAMMAtHETAtIOTAx WITH DASIAzj AND OXIAzoPERISPOMENIzoVARIAzfIALYTIKAzn AND OXIAzsPERISPOMENIzsTONOSzsVARIA",
    "zeMACRONzeOXIAzePERISPOMENIzfSILIzj AND OXIAzoPERISPOMENIzoVARIAzeTONOSzeVARIAzfRACHYtKAPPAuOPPAtLAMDAtMUtNUtOMEGA",
    "y WITH DASIAzk AND OXIAzt AND YPOGEGRAMMENIzpPERISPOMENIzzb AND YPOGEGRAMMENIzpVARIAzu AND YPOGEGRAMMENIzpYPOGEGRAMMENI",
    "zfOXIAzj AND YPOGEGRAMMENIzfPERISPOMENIzq AND YPOGEGRAMMENIzgSILIzk AND OXIAzt AND YPOGEGRAMMENIzpPERISPOMENI",
    "zzb AND YPOGEGRAMMENIzpVARIAzu AND YPOGEGRAMMENIzpYPOGEGRAMMENIzfTONOSzfVARIAzk AND YPOGEGRAMMENIzfYPOGEGRAMMENIvICRON",
    "zb WITH DASIAzm AND OXIAzrVARIAzhOXIAzhPSILIzm AND OXIAzrVARIAzhTONOSzhVARIAtPAMPHYLIAN DIGAMMAuHIuIuSItRHOw WITH DASIA",
    "zdPSILItSAMPIvNuHOuIGMAuTIGMAtTAUuHETAtUPSILONzb WITH DASIAzm AND OXIAzrPERISPOMENIzrVARIAziIALYTIKAzq AND OXIA",
    "zvPERISPOMENIzvTONOSzvVARIAzhMACRONzhOXIAzhPERISPOMENIziSILIzm AND OXIAzrPERISPOMENIzrVARIAzhTONOSzhVARIAziRACHYtXItZETA",
    "mREVERSED DOTTED LUNATE SIGMA SYMBOLvLUNATE SIGMA SYMBOLhUBSCRIPT SMALL LETTER BETAzeCHIzeGAMMAzePHIzeRHOhYMBOL TAU RHO",
    "gTALENT SIGNhHETA SYMBOLiREE OBOLS SIGNmQUARTERS SIGNhONOShRYBLION BASE SIGNhWO OBOLS SIGNkTHIRDS SIGN",
    "gUPSILON WITH ACUTE AND HOOK SYMBOLtDIAERESIS AND HOOK SYMBOLtHOOK SYMBOLgVARIAhOCAL NOTATION SYMBOL-1ze0ze1ze2ze3ze4ze5",
    "ze6ze7ze8ze9zd2ze0ze1ze2ze3ze4zd3zd4zd5ze0ze1ze2ze3ze4zd6zd7zd8zd9gXESTES SIGNgYEAR SIGNhPOGEGRAMMENIgZERO SIGNeN APPLE",
    "gBOOKgHEARTgSALADcIMACING FACEdNNING CAT FACE WITH SMILING EYESjFACEn WITH ONE LARGE AND ONE SMALL EYEtSMILING EYES",
    "uTAR EYEScOUP MARKgSEPARATORdWING HEARTbSbUARANI SIGNeDSMANcIDE DOGdTARcJARATI ABBREVIATION SIGNjDIGIT EIGHTpFIVEqOURpNINE",
    "pONEpSEVENqIXpTHREEqWOpZEROjLETTER ArArIrUqBArHAqCArHAqDArDAsHArHAqEqGArHAqHAqIrIqJArHAqKArHAqLArLAqMAqNArGArNArYAqOqPArHA",
    "qRAqSArHArSAqTArHArTAsHAqUrUqVArOCALIC LzaLyRzaRqYAqZHAjOMjRUPEE SIGNjSIGN ANUSVARApVAGRAHAoCANDRABINDUpIRCLE NUKTA ABOVE",
    "oMADDAHoNUKTAoSHADDApUKUNoTHREE-DOT NUKTA ABOVEpWO-CIRCLE NUKTA ABOVEoVIRAMAqSARGAjVOWEL CANDRA EwOpSIGN AAvIvUuCANDRA E",
    "zcOuEuIvIuOuUvUuVOCALIC LzeLzdRzeRcNJALA GONDI DIGIT EIGHTuFIVEvOURuNINEuONEuSEVENvIXuTHREEvWOuZEROoLETTER AwAwIwUvBAwHA",
    "vCAwHAvDAwDAxHAwHAvEEvGAwHAvHAvIwIvJAwHAvKAwHAvLAwLAvMAvNAwGAvOOvPAwHAvRAvSAvTAwHAwTAxHAvUwUvVAvYAoOMoSIGN ANUSVARA",
    "tVISARGAoVIRAMApOWEL SIGN AAzbIzbUzaEEzaIzbIzaOOzaUzbUcRMUKHI ABBREVIATION SIGNkDDAKjDIGIT EIGHTpFIVEqOURpNINEpONEpSEVEN",
    "qIXpTHREEqWOpZEROjEK ONKARjIRIjLETTER ArArIrUqBArHAqCArHAqDArDAsHArHAqEEqFAqGArHAsHAqHAqIrIqJArHAqKArHAsHAqLArLAqMAqNArGA",
    "rNArYAqOOqPArHAqRArRAqSArHAqTArHArTAsHAqUrUqVAqYAqZAjSIGN ADAK BINDIoBINDIoNUKTAoUDAAToVIRAMAqSARGAoYAKASHjTIPPIjURA",
    "jVOWEL SIGN AAvIvUuEEuIvIuOOuUvUaHADEScIR SPACEeCUTcLFWIDTH BLACK SQUAREkDOWNWARDS ARROWkFORMS LIGHT VERTICAL",
    "kHANGUL FILLERrLETTER AzaEyCHIEUCHzaIEUCyEzaOzaUyHIEUHyIzaEUNGyKHIEUKHzaIYEOKzf-SIOSyMIEUMyNIEUNze-CIEUCzfHIEUHyOzaE",
    "yPHIEUPHzaIEUPze-SIOSyRIEULze-HIEUHzfKIYEOKzfMIEUMzfPHIEUPHzgIEUPzfSIOSzfTHIEUTHySIOSzaSANGCIEUCzeKIYEOKzePIEUPzeSIOS",
    "zeTIKEUTyTHIEUTHzaIKEUTyUyWAzbEzaEzbOzaIyYAzbEzaEzbOzaIzaOzaUkIDEOGRAPHIC COMMAwFULL STOPkKATAKANA LETTER AzbEzbHAzcEzcI",
    "zcOzcUzbIzbKAzcEzcIzcOzcUzbMAzcEzcIzcOzcUzbNzcAzcEzcIzcOzcUzbOzbRAzcEzcIzcOzcUzbSAzcEzcIzcMALL AzhEzhIzhOzhTUzhUzhYAziOziU",
    "zcOzcUzbTAzcEzcIzcOzcUzbUzbWAzcOzbYAzcOzcUtMIDDLE DOTtSEMI-VOICED SOUND MARKtVOICED SOUND MARK",
    "s-HIRAGANA PROLONGED SOUND MARKkLEFT CORNER BRACKEToWARDS ARROWkRIGHT CORNER BRACKETpWARDS ARROWkUPWARDS ARROW",
    "kWHITE CIRCLEcMBURGERdMERg AND PICKlSICKLElWRENCHdSAeTER FACEcND WITH INDEX AND MIDDLE FINGERS CROSSED",
    "qFINGER AND THUMB CROSSEDeBAGgLLeSHAKEdGUL CHOSEONG CEONGCHIEUMCHIEUCHzdIEUCzcSIOSzdSANGCIEUCzhSIOSrHIEUCHx-HIEUHyKHIEUKH",
    "tTUEUMCHIEUCHzaIEUCySIOSzaSANGCIEUCzeSIOSrIEUCv-IEUNGqFILLERqHIEUHv-SIOSqIEUNGv-CHIEUCHxIEUCwHIEUHwKIYEOKwMIEUMwPANSIOS",
    "xHIEUPHxIEUPwRIEULwSIOSwTHIEUTHxIKEUTqKAPYEOUNMIEUMyPHIEUPHzaIEUPyRIEULySSANGPIEUPrHIEUKHrIYEOKw-TIKEUTqMIEUMv-KIYEOK",
    "wPIEUPwSIOSwTIKEUTqNIEUNv-CIEUCwHIEUHwKIYEOKwPIEUPwSIOSwTIKEUTqPANSIOSrHIEUPHx-HIEUHyPIEUPrIEUPv-CHIEUCHxIEUCwHIEUH",
    "wKHIEUKHxIYEOKwNIEUNwPHIEUPHwSIOSzb-CIEUCzcKIYEOKzcPIEUPzcTHIEUTHzdIKEUTxSANGSIOSwTHIEUTHxIKEUTqRIEULv-CIEUCwHIEUH",
    "wKAPYEOUNPIEUPxHIEUKHxIYEOKwMIEUMwNIEUNwPIEUPwSIOSxSANGKIYEOKzcPIEUPzcTIKEUTwTIKEUTqSIOSu-CHIEUCHwIEUCvHIEUHvIEUNGvKHIEUKH",
    "wIYEOKvMIEUMvNIEUNvPHIEUPHwIEUPzb-KIYEOKvRIEULvSSANGSIOSvTHIEUTHwIKEUTrSANGCIEUCzb-HIEUHvHIEUHvIEUNGvKIYEOKvNIEUNvPIEUP",
    "vRIEULvSIOSza-PIEUPvTHIEUTHwIKEUTvYEORINHIEUHqTHIEUTHrIKEUTw-CIEUCxKIYEOKxMIEUMxPIEUPxRIEULxSIOSqYEORINHIEUHsSIEUNG",
    "hDOUBLE DOT TONE MARKhFILLERhJONGSEONG CHIEUCHsIEUCw-PIEUPxSSANGPIEUPrHIEUHw-MIEUMxNIEUNxPIEUPxRIEULrIEUNGw-KHIEUKHyIYEOK",
    "xSSANGKIYEOKrKAPYEOUNMIEUMzaPHIEUPHzbIEUPzaRIEULsHIEUKHsIYEOKx-CHIEUCHyHIEUHyKHIEUKHyNIEUNyPIEUPyRIEULySIOSzd-KIYEOKrMIEUM",
    "w-CHIEUCHyIEUCxHIEUHxKIYEOKxNIEUNxPANSIOSyIEUPzd-SIOSxRIEULxSIOSySANGNIEUNzdSIOSrNIEUNw-CHIEUCHyIEUCxHIEUHxKIYEOKxPANSIOS",
    "xRIEULxSIOSxTHIEUTHyIKEUTrPANSIOSy-KAPYEOUNPIEUPzaPIEUPsHIEUPHy-PIEUPzaSIOSzaTHIEUTHsIEUPw-CHIEUCHyIEUCxHIEUHxMIEUM",
    "xPHIEUPHxRIEULzd-PHIEUPHxSIOSzc-TIKEUTxTIKEUTrRIEULw-HIEUHxKAPYEOUNPIEUPyHIEUKHyIYEOKze-HIEUHzfSIOSxMIEUMzd-HIEUHzeKIYEOK",
    "zeSIOSxNIEUNxPANSIOSyHIEUPHyIEUPzd-HIEUHzePHIEUPHzeSIOSzeTIKEUTxSIOSySANGKIYEOKzdSIOSxTHIEUTHyIKEUTze-HIEUHxYEORINHIEUH",
    "zj-HIEUHzaSIEUNGrSIOSv-CHIEUCHxIEUCwHIEUHwKAPYEOUNPIEUPxIYEOKwMIEUMwPANSIOSxIEUPwRIEULwTHIEUTHxIKEUTsSANGCIEUCwIEUNG",
    "wKIYEOKwMIEUMwNIEUNwPIEUPwRIEULzc-KHIEUKHwSIOSzb-KIYEOKzcTIKEUTwTIKEUTzd-PIEUPwYESIEUNGrTHIEUTHsIKEUTx-CHIEUCHzaIEUC",
    "yKIYEOKyPIEUPyRIEULySIOSzd-KIYEOKyTHIEUTHrYEORINHIEUHtSIEUNGza-HIEUHzbKHIEUKHzcIYEOKzbMIEUMzbPANSIOSzbSIOSzcSANGKIYEOK",
    "iUNGSEONG As-EUtOtUsEsRAEAw-AxEyOxIxUrEsOt-EUuOuUsUt-AuEvOvUuOuUrFILLERrIs-AuRAEAtEUtItOu-ItUtYAv-OvEuEvOuOuUrOs-EuOtOu-I",
    "tUtYAvEuEvOsErSSANGARAEArUs-AuEtEO-EUtI-ItUtYEvOrWAtEsEtOsIrYAt-OuUuYOtEsEtOu-OvUvYAsIt-UsOt-AvEuEOuIuOuYAwEvEOsUt-AvEuEvO",
    "uIuOuUuYEwOhLETTER ApEpRAEAtEoCHIEUCHpIEUCoEpOpUoHIEUHoIpEUNGoKAPYEOUNMIEUMwPHIEUPHxIEUPwSSANGPIEUPpHIEUKHpIYEOKu-SIOS",
    "oMIEUMt-PANSIOSvIEUPuSIOSoNIEUNt-CIEUCuHIEUHuPANSIOSuSIOSuTIKEUToOpEoPANSIOSpHIEUPHpIEUPt-CIEUCuKIYEOKuSIOSy-KIYEOK",
    "zaTIKEUTuTHIEUTHvIKEUToRIEULt-HIEUHuKIYEOKzb-SIOSuMIEUMuPANSIOSvHIEUPHvIEUPza-SIOSuSIOSuTHIEUTHvIKEUTuYEORINHIEUHoSIOS",
    "s-CIEUCtKIYEOKtNIEUNtPIEUPtTIKEUTpSANGCIEUCtHIEUHtIEUNGtKIYEOKtNIEUNtPIEUPtSIOStTIKEUToTHIEUTHpIKEUToUoWAqEpEqOpIoYAqEpEqO",
    "rRINHIEUHqSIEUNGw-PANSIOSxSIOSpIpOq-IrYAtEpUq-IrYEtOhSINGLE DOT TONE MARKeZHOU NUMERAL EIGHTrFIVEsOURrNINErONErSEVENsIX",
    "rTENsHIRTYtREEsWENTYtOdIFI ROHINGYA DIGIT EIGHTwFIVExOURwNINEwONEwSEVENxIXwTHREExWOwZEROqLETTER AxBAxCAxDAyDAxFAxGAxHAxJA",
    "xKAyHAyINNA WAzeYAxLAxMAxNAyGAyYAxPAxRAyRAxSAyHAxTAyTAxVAxWAxYAxZAqMARK NA KHONNAvSAKINqSIGN HARBAHAYvTAHALAxNAxSSI",
    "qVOWEL AwEwIwOwUdUNOO LETTER ApBApDApGApHApIpKApLApMApNAqGApPApRApSApTApUpWApYAiSIGN PAMUDPODiVOWEL SIGN ItU",
    "cPPY PERSON RAISING ONE HANDcRD DISKcTCHING CHICKdRAN LETTER ALEPHpYNoBETHoDALETH-RESHoGIMELoHEqTHoKAPHoLAMEDHoMEMoNUNoPE",
    "oQOPHoSADHEqMEKHpHINoTAWpETHoWAWoYODHoZAYNhNUMBER FIVEoONEr HUNDREDoTENpWENTYbEADPHONEeSTONEj GRAVEYARD SYMBOL",
    "dR-NO-EVIL MONKEYeT DECORATIONgHANDSgWITH ARROWlRIBBONlTIP ON THE LEFTdVY AMPERSAND ORNAMENThRROW SHAFT WIDTH ONEzc HALF",
    "zdTHIRDyTWO THIRDShSTERISKgBALLOT XhLACK CURVED DOWNWARDS AND RIGHTWARDS ARROWtUPWARDS AND RIGHTWARDS ARROWmHEART",
    "l-FEATHERED NORTH EAST ARROWwRIGHTWARDS ARROWwSOUTH EAST ARROWgCHECK MARKjVRON SNOWFLAKEhIRCLEm WITH CIRCLE INSIDE",
    "sSTROKE AND TWO DOTS ABOVEmD SALTIREhONCAVE-POINTED BLACK RIGHTWARDS ARROWgDASHED TRIANGLE-HEADED RIGHTWARDS ARROW",
    "hIVISION SIGNhOLLAR SIGNiUBLE COMMA QUOTATION MARK ORNAMENTnTURNED COMMA QUOTATION MARK ORNAMENT",
    "iWNWARDS ARROW WITH EQUILATERAL ARROWHEADzcLARGE EQUILATERAL ARROWHEADgEIGHT POINTED BLACK STARuPINWHEEL STAR",
    "uRECTILINEAR BLACK STARmSPOKED ASTERISKmTEARDROP-SPOKED PROPELLER ASTERISKhQUALS SIGNhXCLAMATION MARK ORNAMENTxSYMBOL",
    "gFIVE POINTED BLACK STARlSPOKED ASTERISKhOUR BALLOON-SPOKED ASTERISKgGREEK CROSSgHEART EXCLAMATION MARK ORNAMENT",
    "hORIZONTAL FILLgINTERROBANG ORNAMENTgLARGE CIRCLEiTIN CROSShEFT-POINTING ANGLE BRACKET ORNAMENTzbQUOTATION MARK ORNAMENT",
    "kWARDS ARROW WITH EQUILATERAL ARROWHEADzcLARGE EQUILATERAL ARROWHEADhIGATURE OPEN ET ORNAMENT",
    "hOW DOUBLE COMMA QUOTATION MARK ORNAMENTkSINGLE COMMA QUOTATION MARK ORNAMENTjER RIGHT-SHADOWED WHITE RIGHTWARDS ARROW",
    "gMINUS SIGNhULTIPLICATION XgNORTH EAST ARROWrPOINTING BUDzbVINE LEAFmWEST POINTING BUDzbVINE LEAFgOPEN CENTRE CROSS",
    "hUTLINED BLACK STARhVAL WITH OVAL INSIDEgPLUS SIGNgRIGHT-POINTING ANGLE BRACKET ORNAMENTzcQUOTATION MARK ORNAMENT",
    "lWARDS ARROWw WITH EQUILATERAL ARROWHEADzdLARGE EQUILATERAL ARROWHEADhOUND-TIPPED RIGHTWARDS ARROWgSALTIRE",
    "iNS-SERIF INTERROBANG ORNAMENThCRIPT LIGATURE ET ORNAMENThINGLE COMMA QUOTATION MARK ORNAMENT",
    "nTURNED COMMA QUOTATION MARK ORNAMENTiX POINTED BLACK STARkSPOKED ASTERISKhOUTH EAST ARROWrPOINTING BUDzbVINE LEAF",
    "mWEST POINTING BUDzbVINE LEAFhPARKLEgTEARDROP-SHANKED RIGHTWARDS ARROWqPOKED ASTERISKwPINWHEEL ASTERISK",
    "hRIANGLE-HEADED RIGHTWARDS ARROWhWELVE POINTED BLACK STARvPINWHEEL STARgUPPER RIGHT-SHADOWED WHITE RIGHTWARDS ARROW",
    "iWARDS ARROW WITH EQUILATERAL ARROWHEADzaLARGE EQUILATERAL ARROWHEADgVERTICAL BARgWEDGE-TAILED RIGHTWARDS ARROW",
    "hHITE CIRCLEmDOWN-POINTING TRIANGLEmSQUAREhIDE-HEADED RIGHTWARDS ARROWcBREW ACCENT ATNAH HAFUKHoDARGApEHIoETNAHTAoGERESH",
    "u MUQDAMrSHAYIMoILUYoMAHAPAKHpERKHAu KEFULApUNAHoOLEoPASHTAqZERoQADMAqRNEY PARAoREVIAoSEGOLpHALSHELEToTELISHA GEDOLA",
    "wQETANAqVIRpIPEHAoYERAH BEN YOMOqTIVoZAQEF GADOLuQATANqRQApINORhLETTER ALEFs WITH MAPIQyPATAHyQAMATSqTERNATIVE AYIN",
    "zbPLUS SIGNpYINoBETr WITH DAGESHxRAFEoDALETt WITH DAGESHoFINAL KAFx WITH DAGESHuMEMuNUNuPEw WITH DAGESHuTSADIoGIMEL",
    "t WITH DAGESHoHEq WITH MAPIQqToKAFr WITH DAGESHxRAFEoLAMEDt WITH DAGESHoMEMr WITH DAGESHoNUNr WITH DAGESHoPEq WITH DAGESH",
    "wRAFEoQOFr WITH DAGESHoRESHs WITH DAGESHoSAMEKHu WITH DAGESHpHINs WITH DAGESHzf AND SHIN DOTzlIN DOTySHIN DOTzaIN DOToTAV",
    "r WITH DAGESHpETr WITH DAGESHpSADIt WITH DAGESHoVAVr WITH DAGESHxHOLAMoWIDE ALEFtDALETtFINAL MEMtHEtKAFtLAMEDtRESHtTAVoYOD",
    "r WITH DAGESHxHIRIQoZAYINt WITH DAGESHiIGATURE ALEF LAMEDqYIDDISH DOUBLE VAVzgYODyVAV YODyYOD YOD PATAHhMARK LOWER DOT",
    "mMASORA CIRCLEmUPPER DOThPOINT DAGESH OR MAPIQnHATAF PATAHtQAMATStSEGOLoIRIQoOLAMs HASER FOR VAVnJUDEO-SPANISH VARIKA",
    "nMETEGnPATAHnQAMATSt QATANoUBUTSnRAFEnSEGOLoHEVApIN DOToIN DOTnTSEREiUNCTUATION GERESHwSHAYIMtMAQAFtNUN HAFUKHAtPASEQ",
    "tSOF PASUQhYOD TRIANGLEcDGEHOGcLICOPTERdLSCHREIBER PAUSE SYMBOLdM SYMBOLeET WITH WHITE CROSScNTAIGANA LETTER A-1u2u3uWO",
    "sE-1u2u3u4u5u6sHA-1w0w1v2v3v4v5v6v7v8v9tE-1v2v3v4v5v6v7tI-1v2v3v4v5v6v7tO-1v2v3v4v5v6v7v8tU-1v2v3sI-1u2u3u4sKA-1w0w1v2v3v4",
    "v5v6v7v8v9vKEtE-1v2v3v4v5v6tI-1v2v3v4v5v6v7v8tO-1v2v3vKItU-1v2v3v4v5v6v7sMA-1v2v3v4v5v6v7tE-1v2vMAtI-1v2v3v4v5v6v7tO-1v2v3",
    "v4v5v6tU-1v2v3v4sN-MU-MO-1zb2tA-1v2v3v4v5v6v7v8v9tE-1v2v3v4v5v6vKOtI-1v2v3v4v5v6v7vTEtO-1v2v3v4v5tU-1v2v3sO-1u2u3sRA-1v2v3",
    "v4tE-1v2v3v4tI-1v2v3v4v5v6v7tO-1v2v3v4v5v6tU-1v2v3v4v5v6sSA-1v2v3v4v5v6v7v8tE-1v2v3v4v5tI-1v2v3v4v5v6tO-1v2v3v4v5v6v7tU-1",
    "v2v3v4v5v6v7v8sTA-1v2v3v4tE-1v2v3v4v5v6v7v8v9tI-1v2v3v4v5v6v7tO-1v2v3v4v5v6vRAtU-1v2v3v4vTOsU-1u2u3u4u5sWA-1v2v3v4v5tE-1v2",
    "v3v4tI-1v2v3v4v5tO-1v2v3v4v5v6v7sYA-1v2v3v4v5vYOtO-1v2v3v4v5v6tU-1v2v3v4cRBdMITIAN CONJUGATE MATRIXcXAGRAM FOR ABUNDANCE",
    "oFTER COMPLETIONoPPROACHnBEFORE COMPLETIONoITING THROUGHoREAKTHROUGHnCOMING TO MEETpNFLICTqTEMPLATION",
    "nDARKENING OF THE LIGHToECREASEpLIVERANCEpVELOPMENToIFFICULTY AT THE BEGINNINGpSPERSIONoURATIONnENTHUSIASMnFELLOWSHIP",
    "oOLLOWINGnGATHERING TOGETHERoRACEpEAT POSSESSIONvWERuREPONDERANCEtTAMINGnHOLDING TOGETHERnINCREASEpFLUENCEpNER TRUTH",
    "qOCENCEnLIMITATIONnMODESTYpUTH CORNERSnOBSTRUCTIONoPPOSITIONqRESSIONnPEACEoROGRESSoUSHING UPWARDnRETREATqURNpVOLUTION",
    "nSMALL PREPONDERANCEtTAMINGoPLITTING APARToTANDSTILLnTHE ABYSMAL WATERsRMYtOUSING THUNDERrCAULDRONsLINGING FIRE",
    "sREATIVE HEAVENrFAMILYrGENTLE WINDrJOYOUS LAKErKEEPING STILL MOUNTAINrMARRYING MAIDENrRECEPTIVE EARTHrWANDERERsELLoREADING",
    "nWAITINGoORK ON THE DECAYEDnYOUTHFUL FOLLYbIBISCUScGH BRIGHTNESS SYMBOLfOCTET PRESETfVOLTAGE SIGNe-HEELED SHOEfSPEED TRAIN",
    "q WITH BULLET NOSEcKING BOOTcNDU TEMPLEcPPOPOTAMUScRAGANA DIGRAPH YORIjITERATION MARKjLETTER ArRCHAIC WUyYEqBArErIrOrUqDA",
    "rErIrOrUqEqGArErIrOrUqHArErIrOrUqIqKArErIrOrUqMArErIrOrUqNrArErIrOrUqOqPArErIrOrUqRArErIrOrUqSArErIrMALL AwEwIwKAxEwOwTUwU",
    "wWAxExIxOwYAxOxUrOrUqTArErIrOrUqUqVUqWArErIrOqYArOrUqZArErIrOrUjVOICED ITERATION MARKcSTORIC SITEbOCHOcLE",
    "dLOW QUILT SQUARE ORNAMENTzd IN BLACK SQUAREcMOTHETICcNEY POTfBEEcOKcPcRIZONTAL BARmLACK HEXAGONrOCTAGONlELLIPSIS",
    "lLINE EXTENSIONlMALE WITH STROKE SIGNlONE EIGHTH BLOCK-1358zd2zd3zd4zd5zd6zd7lSCAN LINE-1v3v7v9lTAB KEYoULATIONv SET",
    "wWITH JUSTIFICATIONmRAFFIC LIGHTdSEf FACEgRACINGcSPITALcT BEVERAGEeDOGePEPPEReSPRINGSdELcURGLASSj WITH FLOWING SANDdSE",
    "f BUILDINGoSgWITH GARDENbRYVNIA SIGNbTcJcSbUGGING FACEcNDRED POINTS SYMBOLcSHED FACEcTbYGIEAcPHENg BULLEThWITH DIAERESIS",
    "g-MINUSgATION POINTdODIASTOLEcSTERESIS SYMBOLaI LOVE YOU HAND SIGNbCE CREAMfUBEeHOCKEY STICK AND PUCKeSKATEbDENTICAL TO",
    "m AND SLANTED PARALLELkWITH DOT ABOVEgFICATION CARDdOGRAPHIC ANNOTATION BOTTOM MARKxEARTH MARKxFIRST MARKyOUR MARK",
    "zcTH MARKxHEAVEN MARKxLINKING MARKxMAN MARKyIDDLE MARKxONE MARKxREVERSE MARKxSECOND MARKxTHIRD MARKzaREE MARKyOP MARK",
    "yWO MARKmCLOSING MARKnOMMAmDEPARTING TONE MARKoSCRIPTION CHARACTER ABOVE TO BELOWzsMIDDLE AND BELOWzjFULL SURROUND",
    "zjLEFT TO MIDDLE AND RIGHTzrRIGHTzjOVERLAIDzjSURROUND FROM ABOVEzxBELOWzxLEFTzyOWER LEFTzxUPPER LEFTzzeRIGHT",
    "mENTERING TONE MARKmFULL STOPmHALF FILL SPACEmITERATION MARKmLEVEL TONE MARKmNUMBER ZEROmRISING TONE MARKmSPACE",
    "mTALLY MARK FIVEyOURxONExTHREEyWOnELEGRAPH LINE FEED SEPARATOR SYMBOLwSYMBOL FOR APRILzjUGUSTziDAY EIGHTzrEENznLEVEN",
    "zmFIFTEENzoVEznOURzqTEENzmNINEzqTEENzmONEzmSEVENzrTEENznIXzpTEENzmTENznHIRTEENzrYzs-ONEzoREEznWELVEzpNTYzs-EIGHTztFIVE",
    "zuOURztNINEztONEztSEVENzuIXztTHREEzuWOzoOzjECEMBERziFEBRUARYziHOUR EIGHTzsEENzoLEVENznFIFTEENzpVEzoOURzrTEENznNINEzrTEEN",
    "znONEznSEVENzsTEENzoIXzqTEENznTENzoHIRTEENzpREEzoWELVEzqNTYzt-FOURzuONEzuTHREEzvWOzpOznZEROziJANUARYzjULYzkNEziMARCHzkY",
    "ziNOVEMBERziOCTOBERziSEPTEMBERmVARIATION INDICATORbMAGE OFi OR APPROXIMATELY EQUAL TOcPdERIAL ARAMAIC LETTER ALEPHzaYIN",
    "yBETHyDALETHyGIMELyHEzbTHyKAPHyLAMEDHyMEMyNUNyPEyQOPHyRESHySADHEzbMEKHzaHINyTAWzaETHyWAWyYODHyZAYINrNUMBER ONEzc HUNDRED",
    "zdTHOUSANDyTENzc THOUSANDzaHREEzaWENTYzbOrSECTION SIGNbNBOX TRAYcCOMING ENVELOPEfPLETE INFINITYdREASE FONT SIZE SYMBOL",
    "iS ASfMENTcDdEXf POINTING AT THE VIEWERdIAN RUPEE SIGNeC SIYAQ ALTERNATE LAKH MARKmFRACTION ONE HALFzaQUARTER",
    "vTHREE QUARTERSmLAKH MARKmNUMBER ALTERNATE ONEzeTEN THOUSANDzfWOtEIGHTy HUNDREDzaTHOUSANDyYza THOUSANDtFIFTYy THOUSANDvVE",
    "x HUNDREDyTHOUSANDuORTYy THOUSANDvURx HUNDREDyTHOUSANDtKARORyANtLAKHxANtNINEx HUNDREDyTHOUSANDxTYza THOUSANDtONEw HUNDRED",
    "xTHOUSANDtPREFIXED EIGHTzdFIVEzeOURzdNINEzdONEzdSEVENzeIXzdTHREEzeWOtSEVENy HUNDREDzaTHOUSANDyTYzb THOUSANDuIXw HUNDRED",
    "xTHOUSANDwTYy THOUSANDtTENw THOUSANDuHIRTYza THOUSANDvREEy HUNDREDzaTHOUSANDuWENTYza THOUSANDvOw HUNDREDxTHOUSAND",
    "mPLACEHOLDERmRUPEE MARKcFINITYi NEGATED WITH VERTICAL BARdORMATION DESK PERSONmSEPARATOR FOURwONEwTHREExWOnOURCE",
    "cHIBIT ARABIC FORM SHAPINGiSYMMETRIC SWAPPINGcPUT SYMBOL FOR LATIN CAPITAL LETTERSxLETTERSxSMALL LETTERSrNUMBERSrSYMBOLS",
    "cSCRIPTIONAL PAHLAVI LETTER ALEPHzeBETHzeDALETHzeGIMELzeHEzgTHzeKAPHzeLAMEDHzeMEM-QOPHzeNUNzePEzeSADHEzgMEKHzfHINzeTAW",
    "zfETHzeWAW-AYIN-RESHzeYODHzeZAYINwNUMBER FOURzeONEzh HUNDREDziTHOUSANDzeTENzfHREEzfWENTYzgOqRTHIAN LETTER ALEPHzgYINzfBETH",
    "zfDALETHzfGIMELzfHEzhTHzfKAPHzfLAMEDHzfMEMzfNUNzfPEzfQOPHzfRESHzfSADHEzhMEKHzgHINzfTAWzgETHzfWAWzfYODHzfZAYINxNUMBER FOUR",
    "zfONEzi HUNDREDzjTHOUSANDzfTENzgHREEzgWENTYzhOdERTION SYMBOLcTEGRALi AROUND A POINT OPERATORkVERAGE WITH SLASHjEXTENSION",
    "jWITH DOUBLE STROKEoINTERSECTIONoLEFTWARDS ARROW WITH HOOKoOVERBARoTIMES SIGNoUNDERBARqIONeRCALATEfIOR PRODUCT",
    "fLINEAR ANNOTATION ANCHORxSEPARATORxTERMINATORgOCKED FEMALE AND MALE SIGNfROBANGfSECTIONm ABOVE BAR ABOVE UNIONtUNION",
    "nBESIDE AND JOINED WITH INTERSECTIONnWITH DOTsLOGICAL ANDsOVERBARcVERSE BULLETiCHECK MARKnER BOARD FILL",
    "iDOWNWARDS ARROW WITH TIP LEFTWARDSiMEDIUM SHADEiWHITE CIRCLEfTED EXCLAMATION MARKjINTERROBANGjLAZY SkOW KAVYKA",
    "t WITH KAVYKA ABOVEjOHM SIGNjPENTAGRAMjQUESTION MARKjUNDERTIEdISIBLE PLUSkSEPARATORkTIMESbZAKAYA LANTERNaJACK-O-LANTERN",
    "cPANESE BANK SYMBOLjCASTLEjDOLLSjGOBLINjINDUSTRIAL STANDARD SYMBOLjOGREjPOST OFFICEjSYMBOL FOR BEGINNERcR",
    "cVANESE CONSONANT SIGN CAKRAyKERETyPENGKALjDIGIT EIGHTpFIVEqOURpNINEpONEpSEVENqIXpTHREEqWOpZEROjLEFT RERENGGANlTTER ArIqBA",
    "s MURDAqCAs MURDAqDAs MAHAPRANArDAt MAHAPRANAqEqGAs MURDAqHAqIr KAWIrIqJAs MAHAPRANAqKAs MURDAtSASAKqLAqMAqNAs MURDArGA",
    "t LELETza RASWADIrYAt MURDAqOqPAs CEREKtMURDAqRAs AGUNGqSAs MAHAPRANAuURDAqTAs MURDArTAt MAHAPRANAqUqWAqYAjPADA ADEGs ADEG",
    "pNDAPoISEN-ISENoLINGSApUHURqNGSIoMADYAoPANGKATpISELEHoTIRTA TUMETESoWINDUlNGKONnRANGKEPjRIGHT RERENGGANjSIGN CECAKt TELU",
    "oLAYARoPANYANGGAoWIGNYANjTURNED PADA PISELEHjVOWEL SIGN DIRGA MUREuPEPETuSUKUy MENDUTuTALINGwRUNGvOLONGuWULUy MELIKbEANS",
    "bIGSAW PUZZLE PIECEbOINcYSTICKbUGGLINGcNOcPITERaKAABAcITHI ABBREVIATION SIGNhDANDAiOUBLE DANDAoSECTION MARK",
    "hENUMERATION SIGNhLETTER ApApIpUoBApHAoCApHAoDApDAqDHAqHApHAoEoGApHAoHAoIpIoJApHAoKApHAoLAoMAoNApGApNApYAoOoPApHAoRApHAoSA",
    "pHApSAoTApHApTAqHAoUpUoVAoYAhNUMBER SIGNs ABOVEhSECTION MARKiIGN ANUSVARAmCANDRABINDUmNUKTAmVIRAMAoSARGAhVOWEL SIGN AAtItU",
    "sEsItIsOsUtUsVOCALIC RcNGAROOeXI RADICAL AGAINqNDqRRIVEsOWqXEpBADGERrMBOOqEANqIGrRDrTTERqLACKrOODrUEqOATrDYrLT OF CLOTHrNE",
    "rWqRANCHrISTLErUSHpCARTrULDRONrVEqHILDqITYqLANsWrIFFrOTHESqOLORrMPARErRPSErVERrWpDEATHrERqIPPERrSHsTINGUISHrVINATIONqO NOT",
    "rGrORrTsTED CLIFFwTENTrUBLE XrWN BOXqRAGONrUMrYpEARsTHrTqIGHTqMBROIDERYqNCLOSURErTERqVENtINGqYEpFACErNGrTHERqEATHERqIELD",
    "rGHTrRErSHqLUTErYqOOTqRAGRANTrOGqURpGATEqHOSTqOr SLOWLYrLDqRAINsSSpHAIRrLBERDsF TREE TRUNKrNDqEADsRTrMPqIDING ENCLOSURE",
    "qOOKrRNsSEpICEqNCHrSECTpJADErRpKNIFEpLACKrMEqEAFsTHERrEKrGSqIDrFErNEqONGt STRIDEpMANqEATrLONqILLETrNISTERqOONrRNINGsTAR",
    "rUNDtTAINsTHpNETqOSErTpOLDqNEsSELFqPEN BOXrPOSEpPIGqLOWqOWERqRIVATErOFOUNDpRAINrPrTqEDqICErGHT OPEN BOXrVERqOOFqUN",
    "pSACRIFICIAL WINErLTrYqCHOLARrRIPTqEALrCONDrErLFqHEEPsLLrOOTsRT TAILED BIRDwHREADqICKNESSrLKqKINqLASHsVErICEqMALLqNOUT",
    "qOUNDqPEARsECHrIRITrOONrROUTqQUAREqTANDrEAMsPrONEsPtPINGqUNqWEETpTABLErLLrNNED LEATHERqENqIGERrLEqONGUErOTHqRACKrEErIPOD",
    "qURBANsTLEqWOs HANDSpUSEpVALLEYqILLAGEpWALKt ENCLOSURErTERqEAPONrSTqHEATrITEqINDsEqOMANrRKqRAPrONGpYELLOW",
    "dNADA AI LENGTH MARKiDIGIT EIGHToFIVEpOURoNINEoONEoSEVENpIXoTHREEpWOoZEROiLENGTH MARKkTTER AqAqIqUpBAqHApCAqHApDAqDArHAqHA",
    "pEqEpFApGAqHApHApIqIpJAqHApKAqHApLAqLArLApMApNArKAARA POLLUqGAqNAqYApOqOpPAqHApRAqRApSAqHAqSApTAqHAqTArHApUqUpVAqOCALIC L",
    "yLxRyRpYAiSIGN ANUSVARAoVAGRAHAnCANDRABINDUnJIHVAMULIYAnNUKTAnSIDDHAMoPACING CANDRABINDUnUPADHMANIYAnVIRAMApSARGA",
    "iVOWEL SIGN AAuIuUtEuEtIuItOuOtUuUtVOCALIC LzdLzcRzdRcTAKANA DIGRAPH KOTOjITERATION MARKjLETTER ArRCHAIC EyWUyYEzaIqBArErI",
    "rOrUqDArErIrOrUqEqGArErIrOrUqHArErIrOrUqIqKArErIrOrUqMArErIsNNAN NASALIZED TONE-1zn2zn3zn4zn5zn7zn8xTONE-2zd3zd4zd5zd7zd8",
    "rOrUqNrArErIrOrUqOqPArErIrOrUqRArErIrOrUqSArErIrMALL AwEwHAxExIxOxUwIwKAxExUwMUwNxUwOwRAxExIxOxUwSIxUwTOxUwUwWAxExIxOwYAxO",
    "xUrOrUqTArErIrOrUqUqVArErIrOrUqWArErIrOqYArOrUqZArErIrOrUjMIDDLE DOTjVOICED ITERATION MARKi-HIRAGANA DOUBLE HYPHEN",
    "sPROLONGED SOUND MARKsSEMI-VOICED SOUND MARKsVOICED SOUND MARKcYAH LI DIGIT EIGHTpFIVEqOURpNINEpONEpSEVENqIXpTHREEqWOpZERO",
    "jLETTER AqBAqCAqDAqGAqHArTAqIqKArHAqLAqMAqNArGArYAqOErOqPArHAqRAqSArHAqTArHAqVAqWAqYAqZAjSIGN CWIoSHYAjTONE CALYAt PLOPHU",
    "oPLOPHUjVOWEL EqEpOpUqEbELVIN SIGNcYdBOARDi AND MOUSEdCAP TENbHAROSHTHI DIGIT FOURrONErTHREEsWOlFRACTION ONE HALFlLETTER A",
    "sBAtHAsCAtHAsDAtDAuHAtHAsGAtHAsHAsJAsKAtHAtKAsLAsMAsNAtNAtYAsPAtHAsRAsSAtHAtSAsTAtHAtTAuHAuTAvHAsVAtHAsYAsZA",
    "lNUMBER ONE HUNDREDwTHOUSANDsTENtWENTYlPUNCTUATION CIRCLEyRESCENT BARxDANDAyOTzaUBLE DANDAxLINESyOTUSxMANGALAM",
    "xSMALL CIRCLElSIGN ANUSVARAqBAR ABOVEqCAUDAqDOT BELOWsUBLE RING BELOWqVISARGAlVIRAMAmOWEL LENGTH MARKrSIGN EwIwOwU",
    "wVOCALIC RcITAN SMALL SCRIPT CHARACTER-18B00zj1zj2zj3zj4zj5zj6zj7zj8zj9zjAzjBzjCzjDzjEzjFzi10zj1zj2zj3zj4zj5zj6zj7zj8zj9",
    "zjAzjBzjCzjDzjEzjFzi20zj1zj2zj3zj4zj5zj6zj7zj8zj9zjAzjBzjCzjDzjEzjFzi30zj1zj2zj3zj4zj5zj6zj7zj8zj9zjAzjBzjCzjDzjEzjFzi40",
    "zj1zj2zj3zj4zj5zj6zj7zj8zj9zjAzjBzjCzjDzjEzjFzi50zj1zj2zj3zj4zj5zj6zj7zj8zj9zjAzjBzjCzjDzjEzjFzi60zj1zj2zj3zj4zj5zj6zj7zj8",
    "zj9zjAzjBzjCzjDzjEzjFzi70zj1zj2zj3zj4zj5zj6zj7zj8zj9zjAzjBzjCzjDzjEzjFzi80zj1zj2zj3zj4zj5zj6zj7zj8zj9zjAzjBzjCzjDzjEzjF",
    "zi90zj1zj2zj3zj4zj5zj6zj7zj8zj9zjAzjBzjCzjDzjEzjFziA0zj1zj2zj3zj4zj5zj6zj7zj8zj9zjAzjBzjCzjDzjEzjFziB0zj1zj2zj3zj4zj5zj6",
    "zj7zj8zj9zjAzjBzjCzjDzjEzjFziC0zj1zj2zj3zj4zj5zj6zj7zj8zj9zjAzjBzjCzjDzjEzjFziD0zj1zj2zj3zj4zj5zj6zj7zj8zj9zjAzjBzjCzjDzjE",
    "zjFziE0zj1zj2zj3zj4zj5zj6zj7zj8zj9zjAzjBzjCzjDzjEzjFziF0zj1zj2zj3zj4zj5zj6zj7zj8zj9zjAzjBzjCzjDzjEzjFzhC00zj1zj2zj3zj4zj5",
    "zj6zj7zj8zj9zjAzjBzjCzjDzjEzjFzi10zj1zj2zj3zj4zj5zj6zj7zj8zj9zjAzjBzjCzjDzjEzjFzi20zj1zj2zj3zj4zj5zj6zj7zj8zj9zjAzjBzjCzjD",
    "zjEzjFzi30zj1zj2zj3zj4zj5zj6zj7zj8zj9zjAzjBzjCzjDzjEzjFzi40zj1zj2zj3zj4zj5zj6zj7zj8zj9zjAzjBzjCzjDzjEzjFzi50zj1zj2zj3zj4",
    "zj5zj6zj7zj8zj9zjAzjBzjCzjDzjEzjFzi60zj1zj2zj3zj4zj5zj6zj7zj8zj9zjAzjBzjCzjDzjEzjFzi70zj1zj2zj3zj4zj5zj6zj7zj8zj9zjAzjBzjC",
    "zjDzjEzjFzi80zj1zj2zj3zj4zj5zj6zj7zj8zj9zjAzjBzjCzjDzjEzjFzi90zj1zj2zj3zj4zj5zj6zj7zj8zj9zjAzjBzjCzjDzjEzjFziA0zj1zj2zj3",
    "zj4zj5zj6zj7zj8zj9zjAzjBzjCzjDzjEzjFziB0zj1zj2zj3zj4zj5zj6zj7zj8zj9zjAzjBzjCzjDzjEzjFziC0zj1zj2zj3zj4zj5zj6zj7zj8zj9zjAzjB",
    "zjCzjDzjEzjFziD0zj1zj2zj3zj4zj5uFILLERcMER CURRENCY SYMBOL RIELgDIGIT EIGHTmFIVEnOURmNINEmONEmSEVENnIXmTHREEnWOmZERO",
    "gINDEPENDENT VOWEL LYzbYyQAAzbIzbQzbUzaEzaIzbIzaOO TYPE ONEziTWOzaUzbKzbUzcVyRYzbYgLETTER BAnCAoHApOoOnDAoOnHAnKAoHApOoO",
    "nLAoOnMOnNGOoNOoOoYOnPHApOoOnQAnROnSAoHAoSOnTAoHApOoOoTHAqOnVOnYOgSIGN AHSDAmTTHACANmVAKRAHASANYAlBANTOCnRIYOOSANnTHAMASAT",
    "mEYYALlCAMNUC PII KUUHmOENGlKAKABATmHANmOOMUUTlLEK TOOlMUUSIKATOANlNIKAHITlPHNAEK MUANlREAHMUKmOBATlSAMYOK SANNYA",
    "lTOANDAKHIATmRIISAPlVIRIAMlYUUKALEAPINTUhYMBOL BEI KOETrROCoUON KOETsROCnDAP KOETrROCq-BEI KOETvROCsUON KOETwROCrMUOY KOET",
    "wROCrPII KOETvROCsRAM KOETwROCnLEK ATTAK BEIyUONxMUOYxPIIyRAMzc-BEIzeUONzdMUOYzdPIIxSONnMUOY KOETsROCnPATHAMASAToII KOET",
    "rROCoRAM KOETsROCr-BEI KOETwROCtUON KOETxROCsMUOY KOETxROCsPII KOETwROCnTUTEYASATgVOWEL INHERENT AAwQmSIGN AAsEsIsUrErIsE",
    "sIrOEsOrUsAsUrYsAsYcOJKI ABBREVIATION SIGNhDANDAiOUBLE DANDAoSECTION MARKhLETTER ApApIpUoBApBApHAoCApHAoDApDAqDAqHApHAoE",
    "oGApGApHAoHAoIoJApJAoKApHAoLApLAoMAoNApGApNApYAoOoPApHAoRAoSAoTApHApTAqHAoUoVAoYAhSECTION MARKiIGN ANUSVARAmNUKTAmSHADDA",
    "nUKUNmVIRAMAhVOWEL SIGN AAtItUsEsItIsOsUhWORD SEPARATORcUDAWADI DIGIT EIGHTqFIVErOURqNINEqONEqSEVENrIXqTHREErWOqZERO",
    "kLETTER AsAsIsUrBAsBAsHArCAsHArDAsDAtDAtHAsHArErGAsGAsHArHArIsIrJAsHAsJArKAsHArLArMArNAsGAsNAsYArOrPAsHArRAsRArSAsHArTAsHA",
    "sTAtHArUsUrVArYAkSIGN ANUSVARApNUKTApVIRAMAkVOWEL SIGN AAwIwUvEvIwIvOvUwUbIMONOcP SIGNcSSe MARK",
    "eING CAT FACE WITH CLOSED EYESiFACEm WITH CLOSED EYESsSMILING EYEScTEcWIFRUITbNEELING PERSONcOTbOALAcREAN STANDARD SYMBOL",
    "bRONOSaL B BAR SYMBOLbAB COATdELcCROSSE STICK AND BALLcDDERdY BEETLEcNGUAGE TAGcO CANCELLATION MARKeDIGIT EIGHTkFIVElOUR",
    "kNINEkONEkSEVENlIXkTHREElWOkZEROeELLIPSISeHO MOhNOeKO LAeLETTER BOlCOlDOlFO FAYpONoSUNGoTAMlHO SUNGoTAMlKHMU GOqNYOnO SUNG",
    "pTAMmOlLOn LINGpOOTlMOlNGOmOmYOlOlPALI BHAqCHAqDDAsHArHAqGHAqJHAqLLAqNNArYAqTTAsHAmHO SUNGpTAMmOlROlSANSKRIT SHAvSAmO SUNG",
    "oTAMlTHO SUNGpTAMmOlWOlYOeNIGGAHITAeSEMIVOWEL SIGN LOtNYOfIGN PALI VIRAMAeTONE MAI CATAWAnEKnTHOoIeVOWEL SIGN AqAqIqMqYpE",
    "qIpIqIpMAI KANuONpOpUqUpYqYcRGE BLUE CIRCLElDIAMONDlSQUAREhROWN CIRCLEmSQUAREgCIRCLEgDOWN TACKgGREEN CIRCLEmSQUARE",
    "gLEFT TRIANGLE OPERATORgONE DOT OVER TWO DOTS PUNCTUATIONkRING OVER TWO RINGS PUNCTUATIONhRANGE CIRCLEnDIAMONDnSQUARE",
    "gPURPLE CIRCLEnSQUAREgRED CIRCLEkSQUAREgTRIPLE VERTICAL BAR OPERATORhWO DOTS OVER ONE DOT PUNCTUATION",
    "kRINGS OVER ONE RING PUNCTUATIONgUP TACKgYELLOW CIRCLEnSQUAREfR THANl OR EQUAL TOdI SIGNcST QUARTER MOONr SYMBOLsWITH FACE",
    "cTIN CAPITAL LETTER Aw WITH ACUTEzdBREVEzi AND ACUTEznDOT BELOWznGRAVEznHOOK ABOVEznTILDEzdCARONzeIRCUMFLEXzn AND ACUTE",
    "zsDOT BELOWzsGRAVEzsHOOK ABOVEzsTILDEzdDIAERESISzm AND MACRONzeOT ABOVEzm AND MACRONzhBELOWzfUBLE GRAVEzdGRAVEzdHOOK ABOVE",
    "zdINVERTED BREVEzdMACRONzdOGONEKzdRING ABOVEzn AND ACUTEziBELOWzdSTROKEzdTILDEwAwEx WITH ACUTEzeMACRONwFRICAN DwLPHA",
    "wNGLICANA WwOwUwVx WITH HORIZONTAL BARwYvBw WITH DOT ABOVEzhBELOWzdFLOURISHzdHOOKzdLINE BELOWzdSTROKEzdTOPBARwETAwROKEN L",
    "vCw WITH ACUTEzdBARzdCARONzeEDILLAzk AND ACUTEzeIRCUMFLEXzdDOT ABOVEzdHOOKzdPALATAL HOOKzdSTROKEwHIwLOSED INSULAR GwON",
    "wUATRILLOzf WITH COMMAvDw WITH CARONzeEDILLAzeIRCUMFLEX BELOWzdDOT ABOVEzhBELOWzdHOOKzdLINE BELOWzdSHORT STROKE OVERLAY",
    "zeMALL LETTER Zzr WITH CARONzeTROKEzdTOPBARwZx WITH CARONvEw WITH ACUTEzdBREVEzdCARONzeEDILLAzk AND BREVEzeIRCUMFLEX"]

/-- The third quarter of the list. -/
def thirdQuarter : List String := [
    "zn AND ACUTEzsDOT BELOWzsGRAVEzsHOOK ABOVEzsTILDEzoBELOWzdDIAERESISzeOT ABOVEzhBELOWzfUBLE GRAVEzdGRAVEzdHOOK ABOVE",
    "zdINVERTED BREVEzdMACRONzj AND ACUTEzoGRAVEzdOGONEKzdSTROKEzdTILDEzi BELOWwGYPTOLOGICAL AINzlLEFwNGwSHwTxHwZHy REVERSED",
    "zaWITH CARONvFw WITH DOT ABOVEzdHOOKzdSTROKEvGw WITH ACUTEzdBREVEzdCARONzeEDILLAzeIRCUMFLEXzdDOT ABOVEzdHOOKzdMACRON",
    "zdOBLIQUE STROKEzdSTROKEwAMMAwHAwLOTTAL AzeIzeSTOPzeUvHw WITH BREVE BELOWzdCARONzeEDILLAzeIRCUMFLEXzdDESCENDERzeIAERESIS",
    "zeOT ABOVEzhBELOWzdHOOKzdSTROKEwALF HwENGwWAIRvIw WITH ACUTEzdBREVEzdCARONzeIRCUMFLEXzdDIAERESISzm AND ACUTEzeOT ABOVE",
    "zhBELOWzfUBLE GRAVEzdGRAVEzdHOOK ABOVEzdINVERTED BREVEzdMACRONzdOGONEKzdSTROKEzdTILDEzi BELOWwNSULAR DzeFzeGzeRzeSzeTwOTA",
    "wSvJw WITH CIRCUMFLEXzeROSSED-TAILzdSTROKEvKw WITH ACUTEzdCARONzeEDILLAzdDESCENDERzeIAGONAL STROKEzeOT BELOWzdHOOK",
    "zdLINE BELOWzdOBLIQUE STROKEzdSTROKEzj AND DIAGONAL STROKEvLw WITH ACUTEzdBARzeELTzdCARONzeEDILLAzeIRCUMFLEX BELOW",
    "zdDOT BELOWzm AND MACRONzfUBLE BARzdHIGH STROKEzdLINE BELOWzdMIDDLE DOTzkTILDEzdSMALL LETTER JzeTROKEwJvMw WITH ACUTE",
    "zdDOT ABOVEzhBELOWzdHOOKwIDDLE SCOTS Szc-WELSH LLzjVvNw WITH ACUTEzdCARONzeEDILLAzeIRCUMFLEX BELOWzdDESCENDERzeOT ABOVE",
    "zhBELOWzdGRAVEzdLEFT HOOKzeINE BELOWzeONG RIGHT LEGzdOBLIQUE STROKEzdSMALL LETTER JzdTILDEwJvOw WITH ACUTEzdBREVEzdCARON",
    "zeIRCUMFLEXzn AND ACUTEzsDOT BELOWzsGRAVEzsHOOK ABOVEzsTILDEzdDIAERESISzm AND MACRONzeOT ABOVEzm AND MACRONzhBELOW",
    "zfUBLE ACUTEzkGRAVEzdGRAVEzdHOOK ABOVEzfRNzh AND ACUTEzmDOT BELOWzmGRAVEzmHOOK ABOVEzmTILDEzdINVERTED BREVE",
    "zdLONG STROKE OVERLAYzfOPzdMACRONzj AND ACUTEzoGRAVEzeIDDLE TILDEzdOGONEKzj AND MACRONzdSTROKEzj AND ACUTEzdTILDE",
    "zi AND ACUTEznDIAERESISznMACRONwIwLD POLISH OwMEGAwOwPEN EzbOwUvPw WITH ACUTEzdDOT ABOVEzdFLOURISHzdHOOKzdSQUIRREL TAIL",
    "zeTROKEzj THROUGH DESCENDERvQw WITH DIAGONAL STROKEzdSTROKE THROUGH DESCENDERvRw ROTUNDAxWITH ACUTEzdCARONzeEDILLA",
    "zdDOT ABOVEzhBELOWzm AND MACRONzfUBLE GRAVEzdINVERTED BREVEzdLINE BELOWzdOBLIQUE STROKEzdSTROKEzdTAILwEVERSED C WITH DOT",
    "zfEzfHALF HzfOPEN EwUM ROTUNDAvSw WITH ACUTEzi AND DOT ABOVEzdCARONzi AND DOT ABOVEzeEDILLAzeIRCUMFLEXzeOMMA BELOW",
    "zdDOT ABOVEzhBELOWzm AND DOT ABOVEzdHOOKzdOBLIQUE STROKEzdSHORT STROKE OVERLAYzeWASH TAILwALTILLOwCHWAxRIPT GwHARP S",
    "wIGMOID SwMALL CAPITAL IzcQ WITH HOOK TAILvTw WITH CARONzeEDILLAzeIRCUMFLEX BELOWzeOMMA BELOWzdDIAGONAL STROKEzeOT ABOVE",
    "zhBELOWzdHOOKzdLINE BELOWzdRETROFLEX HOOKzdSTROKEwHORNzb WITH STROKEzn THROUGH DESCENDERwONE FIVEzbSIXzbTWOwRESILLO",
    "wURNED AzeLPHAzdHzdINSULAR GzdKzdLzdMzdTzdVwZvUw BARxWITH ACUTEzdBREVEzdCARONzeIRCUMFLEXzn BELOWzdDIAERESISzm AND ACUTE",
    "zrCARONzrGRAVEzrMACRONznBELOWzeOT BELOWzfUBLE ACUTEzkGRAVEzdGRAVEzdHOOK ABOVEzfRNzh AND ACUTEzmDOT BELOWzmGRAVE",
    "zmHOOK ABOVEzmTILDEzdINVERTED BREVEzdMACRONzj AND DIAERESISzdOGONEKzdRING ABOVEzdSTROKEzdTILDEzi AND ACUTEzjBELOWwPSILONvV",
    "w WITH DIAGONAL STROKEzeOT BELOWzdHOOKzdTILDEwENDwISIGOTHIC ZwOLAPUK AEzeOEzeUEwYvWw WITH ACUTEzdCIRCUMFLEXzdDIAERESIS",
    "zeOT ABOVEzhBELOWzdGRAVEzdHOOKwYNNvXw WITH DIAERESISzeOT ABOVEvYw WITH ACUTEzdCIRCUMFLEXzdDIAERESISzeOT ABOVEzhBELOW",
    "zdGRAVEzdHOOKzh ABOVEzdLOOPzdMACRONzdSTROKEzdTILDEwOGHvZw WITH ACUTEzdCARONzeIRCUMFLEXzdDESCENDERzeOT ABOVEzhBELOWzdHOOK",
    "zdLINE BELOWzdPALATAL HOOKzdSTROKEzeWASH TAILpIGATURE IJxOEhROSSgEPIGRAPHIC LETTER ARCHAIC MyI LONGAzaNVERTED MyREVERSED F",
    "ziPySIDEWAYS IgLETTER AINoLVEOLAR CLICKnBIDENTAL PERCUSSIVEpLABIAL CLICKwPERCUSSIVEnDENTAL CLICKnGLOTTAL STOP",
    "za WITH STROKEnINVERTED GLOTTAL STOPzj WITH CURLzpSTROKEnLATERAL CLICKnPHARYNGEAL VOICED FRICATIVEnRETROFLEX CLICK",
    "zd WITH RETROFLEX HOOKpVERSED ESH LOOPwGLOTTAL STOP WITH STROKEnSINOLOGICAL DOToMALL CAPITAL AzdEzcBzdARRED BzcCzcDzcEzdTH",
    "zdZHzcFzcGzd WITH HOOKzcHzcIzdNVERTED RzcJzcKzcLzd WITH BELTzjSTROKEzcMzcNzcOzdEzdPEN OzdUzcPzcQzcRzd WITH RIGHT LEG",
    "zdEVERSED NzlRzdUMzcSzcTzdURNED EzjGzjKzjMzjRzcUzcVzcWzcYzcZoTRETCHED Cy WITH CURLnTWO WITH STROKE",
    "nVOICED LARYNGEAL SPIRANTnWYNNnYRgSMALL CAPITAL LETTER I WITH STROKEzcU WITH STROKEmLETTER Au REVERSED-SCHWAvWITH ACUTE",
    "zbBREVEzg AND ACUTEzlDOT BELOWzlGRAVEzlHOOK ABOVEzlTILDEzbCARONzcIRCUMFLEXzl AND ACUTEzqDOT BELOWzqGRAVEzqHOOK ABOVE",
    "zqTILDEzbDIAERESISzk AND MACRONzcOT ABOVEzk AND MACRONzfBELOWzdUBLE GRAVEzbGRAVEzbHOOK ABOVEzbINVERTED BREVEzbMACRON",
    "zbOGONEKzbRETROFLEX HOOKzcIGHT HALF RINGzdNG ABOVEzl AND ACUTEzgBELOWzbSTROKEzbTILDEuAuEv WITH ACUTEzcMACRONuLPHA",
    "y WITH RETROFLEX HOOKuNGLICANA WuOuUuVv WITH HORIZONTAL BARuYtBu WITH DOT ABOVEzfBELOWzbFLOURISHzbHOOKzbLINE BELOW",
    "zbMIDDLE TILDEzbPALATAL HOOKzbSTROKEzbTOPBARuARRED ALPHAzbEzbOvSELINE ESHuETAuLACKLETTER EzgOzh WITH STROKEuOTTOM HALF O",
    "uROKEN LtCu WITH ACUTEzbBARzbCARONzcEDILLAzi AND ACUTEzcIRCUMFLEXzcURLzbDOT ABOVEzbHOOKzbPALATAL HOOKzbRETROFLEX HOOK",
    "zbSTROKEuHIw WITH LOW LEFT SERIFzhRIGHT RINGuLOSED INSULAR GzbOMEGAzcPEN EzbREVERSED OPEN EuONuUATRILLOzd WITH COMMAtD",
    "u WITH CARONzcEDILLAzcIRCUMFLEX BELOWzcURLzbDOT ABOVEzfBELOWzbHOOKzf AND TAILzbLINE BELOWzbMIDDLE TILDEzbPALATAL HOOK",
    "zbSHORT STROKE OVERLAYzcTROKEzbTAILzcOPBARuB DIGRAPHuELTAvZH DIGRAPHzg WITH PALATAL HOOKzmRETROFLEX HOOKuOTLESS IzcJ",
    "zd WITH STROKEzp AND HOOKvUBLE Rzc WITH CROSSED-TAILzbTHORNzbWYNNuUMuZv DIGRAPHze WITH CURLzkRETROFLEX HOOKwWITH CARONtE",
    "u WITH ACUTEzbBREVEzbCARONzcEDILLAzi AND BREVEzcIRCUMFLEXzl AND ACUTEzqDOT BELOWzqGRAVEzqHOOK ABOVEzqTILDEzmBELOW",
    "zbDIAERESISzcOT ABOVEzfBELOWzdUBLE GRAVEzbFLOURISHzbGRAVEzbHOOK ABOVEzbINVERTED BREVEzbMACRONzh AND ACUTEzmGRAVEzbNOTCH",
    "zbOGONEKzbRETROFLEX HOOKzbSTROKEzbTILDEzg BELOWuGYPTOLOGICAL AINzjLEFuNGw WITH CROSSED-TAILzdPALATAL HOOKuSHw WITH CURL",
    "zdDOUBLE BARzn AND CURLzdPALATAL HOOKzdRETROFLEX HOOKuTvHuZHw REVERSEDxWITH CARONzeURLzdPALATAL HOOKzdRETROFLEX HOOKzdTAIL",
    "tFu WITH DOT ABOVEzbHOOKzbMIDDLE TILDEzbPALATAL HOOKzbSTROKEuENG DIGRAPHzg WITH TRILLtGu WITH ACUTEzbBREVEzbCARONzcEDILLA",
    "zcIRCUMFLEXzbDOT ABOVEzbHOOKzbMACRONzbOBLIQUE STROKEzbPALATAL HOOKzbSTROKEuAMMAuHAuLOTTAL AzcIzcSTOPzcUtH",
    "u WITH BREVE BELOWzbCARONzcEDILLAzcIRCUMFLEXzbDESCENDERzcIAERESISzcOT ABOVEzfBELOWzbHOOKzbLINE BELOWzbPALATAL HOOKzbSTROKE",
    "uALF HuENGx WITH HOOKuVtIu WITH ACUTEzbBREVEzbCARONzcIRCUMFLEXzbDIAERESISzk AND ACUTEzcOT BELOWzdUBLE GRAVEzbGRAVE",
    "zbHOOK ABOVEzbINVERTED BREVEzbMACRONzbOGONEKzbRETROFLEX HOOKzbSTROKEzh AND RETROFLEX HOOKzbTILDEzg BELOWuNSULAR DzcFzcGzcR",
    "zcSzcTvVERTED ALPHAzdOEuOTAx WITH STROKEwIFIED EuStJu WITH CARONzcIRCUMFLEXzcROSSED-TAILzbSTROKEtKu WITH ACUTEzbCARON",
    "zcEDILLAzbDESCENDERzcIAGONAL STROKEzcOT BELOWzbHOOKzbLINE BELOWzbOBLIQUE STROKEzbPALATAL HOOKzbSTROKE",
    "zh AND DIAGONAL STROKEuRAtLu WITH ACUTEzbBARzcELTzf AND PALATAL HOOKzbCARONzcEDILLAzcIRCUMFLEX BELOWzcURLzbDOT BELOW",
    "zk AND MACRONzdUBLE BARziMIDDLE TILDEzbFISHHOOKzbHIGH STROKEzbINVERTED LAZY SzbLINE BELOWzbMIDDLE DOTziRINGziTILDE",
    "zbPALATAL HOOKzbRETROFLEX HOOKzp AND BELTzbSTROKEuAMBDA WITH STROKEuENIS FvZHx WITH RETROFLEX HOOKuJuONG S",
    "za WITH DIAGONAL STROKEzhOT ABOVEzgHIGH STROKEuS DIGRAPHuUMuZ DIGRAPHtMu WITH ACUTEzbCROSSED-TAILzbDOT ABOVEzfBELOWzbHOOK",
    "zbMIDDLE TILDEzbPALATAL HOOKuIDDLE SCOTS Sza-WELSH LLzhVuUMtNu PRECEDED BY APOSTROPHEvWITH ACUTEzbCARONzcEDILLA",
    "zcIRCUMFLEX BELOWzcROSSED-TAILzcURLzbDESCENDERzcOT ABOVEzfBELOWzbGRAVEzbLEFT HOOKzcINE BELOWzcONG RIGHT LEGzbMIDDLE TILDE",
    "zbOBLIQUE STROKEzbPALATAL HOOKzbRETROFLEX HOOKzbTILDEuJuUMtOu WITH ACUTEzbBREVEzbCARONzcIRCUMFLEXzl AND ACUTEzqDOT BELOW",
    "zqGRAVEzqHOOK ABOVEzqTILDEzbDIAERESISzk AND MACRONzcOT ABOVEzk AND MACRONzfBELOWzdUBLE ACUTEziGRAVEzbGRAVEzbHOOK ABOVEzdRN",
    "zf AND ACUTEzkDOT BELOWzkGRAVEzkHOOK ABOVEzkTILDEzbINVERTED BREVEzbLONG STROKE OVERLAYzdOPzdW RING INSIDEzbMACRON",
    "zh AND ACUTEzmGRAVEzbOGONEKzh AND MACRONzbRETROFLEX HOOKzbSTROKEzh AND ACUTEzbTILDEzg AND ACUTEzlDIAERESISzlMACRONuI",
    "uLD POLISH OuMEGAuOuPEN Eza WITH RETROFLEX HOOKyOza WITH RETROFLEX HOOKzgSTROKEzaEuUtPu WITH ACUTEzbDOT ABOVEzbFLOURISH",
    "zbHOOKzbMIDDLE TILDEzbPALATAL HOOKzbSQUIRREL TAILzcTROKEzh THROUGH DESCENDERuHItQu WITH DIAGONAL STROKEzbHOOKzf TAIL",
    "zbSTROKE THROUGH DESCENDERuP DIGRAPHtRu ROTUNDAvWITH ACUTEzbCARONzcEDILLAzcROSSED-TAILzbDOT ABOVEzfBELOWzk AND MACRON",
    "zdUBLE GRAVEzbFISHHOOKzj AND MIDDLE TILDEzoPALATAL HOOKzbINVERTED BREVEzbLINE BELOWzcONG LEGzbMIDDLE TILDEzbOBLIQUE STROKE",
    "zbPALATAL HOOKzbSTROKEzbTAILzaOUT HANDLEuAMS HORNuEVERSED Cze WITH DOTzdEzeNGzdHALF HzdKzdOPEN Ezj WITH HOOK",
    "zpRETROFLEX HOOKzdR WITH FISHHOOKzdSCRIPT GuUMw ROTUNDAtSu WITH ACUTEzg AND DOT ABOVEzbCARONzg AND DOT ABOVEzcEDILLA",
    "zcIRCUMFLEXzcOMMA BELOWzcURLzbDOT ABOVEzfBELOWzk AND DOT ABOVEzbHOOKzbMIDDLE TILDEzbOBLIQUE STROKEzbPALATAL HOOK",
    "zbSHORT STROKE OVERLAYzcWASH TAILuAKHA YATvLTILLOuCHWAy WITH HOOKzfRETROFLEX HOOKvRIPT Gzc WITH CROSSED-TAILzbR",
    "zc WITH RINGuHARP SuIDEWAYS DIAERESIZED UzdOze WITH STROKEzePEN OzdTURNED MzdUvGMOID SuQUAT REVERSED ESHuTIRRUP RtT",
    "u WITH CARONzcEDILLAzcIRCUMFLEX BELOWzcOMMA BELOWzcURLzbDIAERESISzeGONAL STROKEzcOT ABOVEzfBELOWzbHOOK",
    "zf AND RETROFLEX HOOKzbLINE BELOWzbMIDDLE TILDEzbPALATAL HOOKzbRETROFLEX HOOKzbSTROKEuAILLESS PHIuC DIGRAPH WITH CURL",
    "uESH DIGRAPHzg WITH PALATAL HOOKzmRETROFLEX HOOKuH WITH STRIKETHROUGHvORNy WITH STROKEzl THROUGH DESCENDERuONE FIVEySIX",
    "yTWOvP HALF OuRESILLOuS DIGRAPHze WITH RETROFLEX HOOKuUMvRNED AzcEzcLPHAzbDELTAzbEzbGzbHzc WITH FISHHOOKzq AND TAILzbI",
    "zcNSULAR GzbKzbLzbMzc WITH LONG LEGzbO OPEN-Ozj WITH STROKEzcEzd WITH HORIZONTAL STROKEzjSTROKEzcPEN EzbRzc WITH HOOK",
    "ziLONG LEGzq AND RETROFLEX HOOKziMIDDLE TILDEziPALATAL HOOKziTAILzbTzc WITH CURLzbUIzbVzbWzbYzc WITH BELTuZtUu BAR",
    "y WITH SHORT RIGHT LEGvWITH ACUTEzbBREVEzbCARONzcIRCUMFLEXzl BELOWzbDIAERESISzk AND ACUTEzpCARONzpGRAVEzpMACRONzlBELOW",
    "zcOT BELOWzdUBLE ACUTEziGRAVEzbGRAVEzbHOOK ABOVEzdRNzf AND ACUTEzkDOT BELOWzkGRAVEzkHOOK ABOVEzkTILDEzbINVERTED BREVE",
    "zbLEFT HOOKzbMACRONzh AND DIAERESISzbOGONEKzbRETROFLEX HOOKzcING ABOVEzbSHORT RIGHT LEGzcTROKEzbTILDEzg AND ACUTEzhBELOWuE",
    "uIuMuOuPSILONzb WITH STROKEtVu WITH CURLzbDIAGONAL STROKEzcOT BELOWzbHOOKzbPALATAL HOOKzbRIGHT HOOKzbTILDEuENDuISIGOTHIC Z",
    "uOLAPUK AEzcOEzcUEuYtWu WITH ACUTEzbCIRCUMFLEXzbDIAERESISzcOT ABOVEzfBELOWzbGRAVEzbHOOKzbRING ABOVEtXu WITH DIAERESIS",
    "zcOT ABOVEzbLONG LEFT LEGzo AND LOW RIGHT RINGzpWITH SERIFzdW RIGHT RINGzbPALATAL HOOKtYu WITH ACUTEzbCIRCUMFLEX",
    "zbDIAERESISzcOT ABOVEzfBELOWzbGRAVEzbHOOKzf ABOVEzbLOOPzbMACRONzbRING ABOVEzbSHORT RIGHT LEGzcTROKEzbTILDEuOGHtZ",
    "u WITH ACUTEzbCARONzcIRCUMFLEXzcURLzbDESCENDERzcOT ABOVEzfBELOWzbHOOKzbLINE BELOWzbMIDDLE TILDEzbPALATAL HOOK",
    "zbRETROFLEX HOOKzbSTROKEzcWASH TAILnIGATURE FFxIxLwIwLvIJvLONG S TvOEvSThUBSCRIPT SMALL LETTER AzeEzeHzeIzeJzeKzeLzeMzeN",
    "zeOzePzeRzeSzfCHWAzeTzeUzeVzeXbEAF FLUTTERING IN WINDeY GREENcDGERcFT AND LOWER AND RIGHT TRIANGULAR THREE QUARTERS BLOCK",
    "pONE EIGHTH BLOCKjRIGHT DOUBLE TURNSTILEpTACKqRIANGULAR HALF BLOCKjUPPER AND RIGHT TRIANGULAR THREE QUARTERS BLOCK",
    "pONE EIGHTH BLOCKhGER BUBBLEiLE BRACKETs WITH DOTgRC LESS-THAN BRACKEThROW WITH CIRCLED PLUSqSMALL CIRCLE",
    "fBARB DOWN RIGHT BARB DOWN HARPOONzbUP HARPOONkUP RIGHT BARB DOWN HARPOONyUP HARPOONgLACK LENTICULAR BRACKET",
    "lTORTOISE SHELL BRACKETfCEILINGgLOSED ENTRYgORNER BRACKETgURLY BRACKETs LOWER HOOKtMIDDLE PIECEtUPPER HOOK",
    "fDOTTED SUBSTITUTION BRACKEThUBLE ANGLE BRACKETmPARENTHESISmQUOTATION MARKmWIGGLY FENCEfFISH TAILhVE EIGHTHS BLOCKgLOOR",
    "fHALF BLACK CIRCLEqSTARmOCKkCIRCLEq WITH DOTwFOUR DOTSwTHREE DOTSxWO DOTSkFOLDERkINVERSE MEDIUM SHADE AND RIGHT HALF BLOCK",
    "kMEDIUM SHADEkRUNNING MANhND TELEPHONE RECEIVERfLOW PARAPHRASE BRACKETgUGGAGEfMULTIMAPfNORMAL FACTOR SEMIDIRECT PRODUCT",
    "fONE EIGHTH BLOCKjQUARTER BLOCKgUTER JOINfPARENTHESISq EXTENSIONrLOWER HOOKrUPPER HOOKfRAISED OMISSION BRACKETgIGHT ARROW",
    "q THROUGH SMALL CIRCLErWITH DOUBLE VERTICAL STROKEwSTROKEwVERTICAL STROKElBLACK ARROWlDOUBLE ARROWx WITH STROKE",
    "zeVERTICAL STROKElOPEN-HEADED ARROWlSANS-SERIF ARROWlTRIANGLE-HEADED ARROWlWAVE ARROWmHITE ARROWfS-SHAPED BAG DELIMITER",
    "gEMIDIRECT PRODUCThVEN EIGHTHS BLOCKgIDEWAYS U BRACKEThNGLE QUOTATION MARKgPEECH BUBBLEgQUARE BRACKETt EXTENSION",
    "uLOWER CORNERuUPPER CORNERuWITH DOUBLE STROKEzaQUILLzaSTROKEzaTICK IN BOTTOM CORNERziTOP CORNERzaUNDERBAR",
    "gUBSTITUTION BRACKETfTACKgHIRD WHITE RIGHT POINTING INDEXhOUGHT BUBBLEhREE EIGHTHS BLOCKlQUARTERS BLOCK",
    "gORTOISE SHELL BRACKETgRANSPOSITION BRACKEThIANGLE BESIDE VERTICAL BARlULAR ONE QUARTER BLOCKfVERTICAL BAR WITH QUILL",
    "pOX LINEfWHITE CORNER BRACKETmURLY BRACKETlLENTICULAR BRACKETlPARENTHESISlSQUARE BRACKETlTORTOISE SHELL BRACKET",
    "gIGGLY FENCEgRITING HANDe-FACING ARMENIAN ETERNITY SIGNmFISTmSVASTI SIGNx WITH DOTSfHANDED INTERLACED PENTAGRAM",
    "fPOINTING ANGLE BRACKEToCURVED ANGLE BRACKEToDOUBLE ANGLE QUOTATION MARKoMAGNIFYING GLASSfSHADED WHITE RIGHTWARDS ARROW",
    "gIDE ARC ANTICLOCKWISE ARROWfTO-RIGHT EMBEDDINGoISOLATEoMARKoOVERRIDEeWARDS ARROWp ABOVE ALMOST EQUAL TO",
    "wREVERSE ALMOST EQUAL TOzfTILDE OPERATORwSHORT RIGHTWARDS ARROWwTILDE OPERATORrND UPPER AND LOWER ONE EIGHTH BLOCK",
    "qFROM BARy TO BLACK DIAMONDqOVER RIGHTWARDS ARROWqTHROUGH LESS-THANySUBSETyXrO BARw OVER RIGHTWARDS ARROW TO BAR",
    "uLACK DIAMONDqWITH DOTTED STEMxUBLE VERTICAL STROKEvEQUILATERAL ARROWHEADvHOOKvLARGE TRIANGLE ARROWHEADwOOP",
    "vMEDIUM TRIANGLE ARROWHEADvNOTCHED TAILvPLUS BELOWvSMALL EQUILATERAL ARROWHEADzcTRIANGLE ARROWHEADwTROKEvTAIL",
    "za WITH DOUBLE VERTICAL STROKEzgVERTICAL STROKEwIP DOWNWARDSzaUPWARDSvVERTICAL STROKEp-TAIL",
    "kBACK-TILTED SHADOWED WHITE ARROWlLACK ARROWqCIRCLED WHITE ARROWlOTTOM-SHADED WHITE ARROWkCOMPRESSED ARROWkDASHED ARROW",
    "lOUBLE ARROWw FROM BARxWITH STROKEzdVERTICAL STROKEw-TAILrDASH ARROWkFINGER-POST ARROWlRONT-TILTED SHADOWED WHITE ARROW",
    "kHANDmRPOON OVER RIGHTWARDS HARPOONsWITH BARB DOWN ABOVE RIGHTWARDS HARPOON WITH BARB DOWNziBELOW LONG DASHziFROM BAR",
    "ziTO BARzhWARDSzdUP ABOVE LEFTWARDS HARPOON WITH BARB DOWNznONG DASHzmRIGHTWARDS HARPOON WITH BARB UPzgFROM BARzgTO BAR",
    "zfWARDSlEAVY ARROWqCOMPRESSED ARROWkLEFT-SHADED WHITE ARROWkOPEN-HEADED ARROWkPAIRED ARROWSkQUADRUPLE ARROW",
    "kRIGHT-SHADED WHITE ARROWlOCKETkSANS-SERIF ARROWlQUARED ARROWnIGGLE ARROWkTOP SHADED WHITE ARROWlRIANGLE ARROWHEAD",
    "s-HEADED ARROWzg OVER RIGHTWARDS TRIANGLE-HEADED ARROWzhTO BARzhWITH BOLD SHAFTzmDOUBLE HORIZONTAL STROKEztVERTICAL STROKE",
    "zmHEAVY SHAFTzmLONG TIP DOWNWARDSzvUPWARDSzmMEDIUM SHAFTzmNARROW SHAFTzmVERY HEAVY SHAFTzbDASHED ARROWzbPAIRED ARROWS",
    "nPLE ARROWrDASH ARROWlWO HEADED ARROWn-HEADED ARROW FROM BARzcWITH DOUBLE VERTICAL STROKEzhTAIL",
    "zl WITH DOUBLE VERTICAL STROKEzrVERTICAL STROKEziRIANGLE ARROWHEADSzhVERTICAL STROKEvTRIPLE DASH ARROWkWAVE ARROW",
    "lHITE ARROWv WITHIN TRIANGLE ARROWHEADcGcMONcOdPARDcPCHA CONSONANT SIGN KxANGwLwMwNxYIN-DOwPwRwThDIGIT EIGHTnFIVEoOURnNINE",
    "nONEnSEVENoIXnTHREEoWOnZEROhLETTER AoBApLAoCApHAoDApDApZAoFApLAoGApLAoHApLAoJAoKApHApLAoLAoMApLAoNApGApYAoPApHApLAoRAoSA",
    "pHAoTApHApSAqHApTAqHAoVAoWAoYAhPUNCTUATION CER-WAtNYET THYOOM TA-ROLtTA-ROLuSHOOKza CER-WAhSIGN NUKTAmRAN",
    "iUBJOINED LETTER RAyYAhVOWEL SIGN AAsEsIsOtOsUtUcSS-THAN ABOVE DOUBLE-LINE EQUAL ABOVE GREATER-THAN",
    "qGREATER-THAN ABOVE DOUBLE-LINE EQUALqLEFTWARDS ARROWqSIMILAR ABOVE GREATER-THANyOR EQUAL",
    "rLANTED EQUAL ABOVE GREATER-THAN ABOVE SLANTED EQUALlND NOT APPROXIMATEoSINGLE-LINE NOT EQUAL TOkBUT NOT EQUAL TO",
    "vIVALENT TOkCLOSED BY CURVEza ABOVE SLANTED EQUALkEQUAL TO OR GREATER-THANkOR APPROXIMATEnEQUAL TOqIVALENT TOnGREATER-THAN",
    "nSLANTED EQUAL TOze WITH DOT ABOVEzt RIGHTzoINSIDElVER EQUAL TOkSIGNkWITH CIRCLE INSIDEpDOTpQUESTION MARK ABOVEcVEL SLIDER",
    "bFbIBRAcGATURE OPEN ET ORNAMENTdHT CHECK MARKgEIGHT SPOKED ASTERISKgFIVE POINTED BLACK STARlSPOKED ASTERISK",
    "hOUR POINTED BLACK CUSPzaSTARgGREEK CROSSgLEFT TORTOISE SHELL BRACKET ORNAMENTgRAILhIGHT TORTOISE SHELL BRACKET ORNAMENT",
    "gSALTIREhHADEhIX SPOKED ASTERISKgTHREE POINTED BLACK STARhWELVE POINTED BLACK STARgVERTICAL BARgWHITE SQUAREfNINGj MOOD",
    "o BUBBLEcMBU DIGIT EIGHTmFIVEnOURmNINEmONEmSEVENnIXmTHREEnWOmZEROgEXCLAMATION MARKgLETTER BAoHAnCAoHAnDAoHAnGAoHAoYANnHA",
    "nJAoHAnKAoHAnLAnMAnNAoGAnPAoHAnRAnSAoHAoSAnTAoHAoRAnWAnYApNgQUESTION MARKgSIGN KEMPHRENGlLOOlMUKPHRENGlSA-I",
    "hMALL LETTER ANUSVARAtKAtLAtMAtNAuGAtPAtRAtTAhUBJOINED LETTER RAxWAxYAgVOWEL SIGN AsIsUrEsErIrOsOrUl-CARRIER LETTER",
    "dITED LIABILITY SIGNcNE FEEDfINTEGRATION NOT INCLUDING THE POLErWITH RECTANGULAR PATH AROUND POLE",
    "wSEMICIRCULAR PATH AROUND POLEfSEPARATORfTABULATIONp SETeAR A SIGN A028Bp100-102q20Bq31Cp301r2r3r4r5r6r7r8r9AsBsCq10r1r2",
    "r3AsBsCr4r5r6r7r8r9q20r1r2r3r4r5r6r7r8r9q30r1r2r3r4r5r6r7r8r9q40r1r2r3r4r5r6r7r8r9q50r1r2r3r4r5r6r7r8r9q60r1r2r3r4r5r6r7r8",
    "r9q70r1p400-VASr1-VASr2-VASr3-VASr4-VASr5-VASr6-VASr7-VASr8-VASr9-VASq10-VASr1-VASr2-VASr3-VASr4-VASr5-VASr6-VASr7-VAS",
    "r8-VASp501r2r3r4r5r6r8r9q10r1r2r3r5r6q20r1r3r4r5r6r7r8r9q30r1r2r4r5r6r7r8r9q40r1r2r5r7r8r9q50r1r2r3r4r5r6r7r9q63r4r5r6r8r9",
    "q70r1r2r3r4r5r6r7r8r9q80r1r2r3r4r5r6r7r8r9q91r2r4r5r6r8p600r1r2r3r4r6r8r9q10r1r2r3r4r5r6r7r8r9q20r1r2r3r4r6r7r8r9q34r7r8",
    "q40r2r3r4r5r6r8r9q51r2r3r4r5r6r7r8r9q60r1r2r3r4p701 Ar2 Br3 Dr4 Er5 Fr6 Hr7 Jr8 Kr9 Ls-2 L2t3 L3t4 L4t6 L6q10 Wr1 Xr2 Y",
    "r3 OMEGAr4 ABBr5 BBr7 DDq26 EYYYq32 JEp800r1r2r3r4r5r6r7pB001s2s3s4s5s6s7s8s9r10s1s3s6s7r20s1tFtMs2tFtMs3tMs4s6s7s8s9r30s1",
    "s4s7s8s9r40s1s4s5s6s7s8s9r50s1s3s4s5s6s7s8s9r60s1s5s6s7s9r70s3s4s6s7s8s9r80s1s2s5s6s7q118r20s2s3r31AtBr64r71r80s8r91",
    "hB IDEOGRAM B100 MANv2 WOMANv4 DEERv5 EQUIDwF MAREwM STALLIONv6F EWEwM RAMv7F SHE-GOATwM HE-GOATv8F SOWwM BOARv9F COW",
    "wM BULLu20 WHEATv1 BARLEYv2 OLIVEv3 SPICEv5 CYPERUSu30 OILv1 WINEv2u40 BRONZEv1 GOLDv2v5 WOOLv6u50v1 HORNv2v3v4v7v8",
    "v9 CLOTHu60v1v2 GARMENTv3 ARMOURv4v5v6v7v8v9u70v1v2v3 MONTHv4v6 TREEv7v8v9u80v1v2v3v4v5v9u90v1 HELMETt220 FOOTSTOOL",
    "v5 BATHTUBu30 SPEARv1 ARROWv2v3 SWORDv4v6u40 WHEELED CHARIOTv1 CHARIOTv2 CHARIOT FRAMEv3 WHEELv5v6v8v9u51v2v3v4 DARTv5v6v7",
    "v8v9sVESSEL B155zb200zd1zd2zd3zd4zd5zd6zd7zd8zd9zc10zd1zd2zd3zd4zd5zd6zd7zd8zd9zc21zd2zd6zd7zd8zd9zc50zb305",
    "jMONOGRAM B127 KAPOv8 KANAKOu33 AREPAv5 MERIu56 TURO2t247 DIPTEjSYLLABLE B001 DAv2 ROv3 PAv4 TEv5 TOv6 NAv7 DIv8 Av9 SE",
    "u10 Uv1 POv2 SOv3 MEv4 DOv5 MOv6 QAv7 ZAu20 ZOv1 QIv3 MUv4 NEv5 A2v6 RUv7 REv8 Iv9 PU2u30 NIv1 SAv2 QOv3 RA3v6 JOv7 TIv8 E",
    "v9 PIu40 WIv1 SIv2 WOv3 A3v4 KEv5 DEv6 JEv8 NWAu50 PUv1 DUv2 NOv3 RIv4 WAv5 NUv7 JAv8 SUv9 TAu60 RAv1 Ov2 PTEv5 JUv6 TA2",
    "v7 KIv8 RO2v9 TUu70 KOv1 DWEv2 PEv3 MIv4 ZEv5 WEv6 RA2v7 KAv8 QEu80 MAv1 KUv5 AUv7 TWEu90 DWOv1 TWOlMBOL B018t9s22s34s47t9",
    "s56s63t4s79s82t3t6t9dK SYMBOLeED PAPERCLIPScON FACEcPSeTICKcRA SIGNcSU LETTER AnEmBAmCAnHAmDAnZAmEnUmFAmGAnHAmHAnHAmImJA",
    "mKAnHAmLAmMAmNAnGAmOnEmPAnHAmSAnHAmTAnHAnONE MYA BOvCYAvJEUvNAvTIrNA POnSAoHAmUnEnHmWAmXAmYAnHAmZAnHAfPUNCTUATION COMMA",
    "rFULL STOPcVRE TOURNOIS SIGNcZARDbLAMAbOBSTERcCKe WITH INK PENeING-SHIFT ONEoZEROcGICAL ANDl WITH DOT ABOVEtUBLE OVERBAR",
    "yUNDERBARrHORIZONTAL DASHrMIDDLE STEMrUNDERBARiORk OVERLAPPING LOGICAL ANDlWITH DOT ABOVEsUBLE OVERBARxUNDERBAR",
    "qHORIZONTAL DASHqMIDDLE STEMcLLIPOPcNG DASH FROM LEFT MEMBER OF DOUBLE VERTICALgIVISIONgRUMfLEFT RIGHT ARROWqDOUBLE ARROW",
    "kTACKjWARDS ARROWu FROM BARpDOUBLE ARROWzc FROM BARpSQUIGGLE ARROWfRIGHT TACKkWARDS ARROWv FROM BARqDOUBLE ARROW",
    "zd FROM BARqSQUIGGLE ARROWcTION BOTTLEdUScUDLY CRYING FACEcVE HOTELfLETTERcW ASTERISKeBATTERYfRIGHTNESS SYMBOL",
    "eDOUBLE PRIME QUOTATION MARKeKAVYKAk WITH DOTeLINEdER BLADE SCISSORSgFIVE EIGHTHS BLOCKgHALF BLOCKlCIRCLE",
    "lINVERSE WHITE CIRCLElMEDIUM SHADEgLEFT BALLPOINT PENmLOCK DIAGONAL LOWER MIDDLE LEFT TO LOWER CENTREzzdRIGHT",
    "zbUPPER CENTRE TO LOWER MIDDLE RIGHTzxRIGHTzrUPPER MIDDLE RIGHTzhLEFT TO LOWER CENTREzvMIDDLE RIGHTzpUPPER MIDDLE RIGHT",
    "zhMIDDLE LEFT TO LOWER CENTREzzdMIDDLE RIGHTzzdRIGHTlCRAYONlFOUNTAIN PENlPAINTBRUSHmENCILlQUADRANT CIRCULAR ARC",
    "lSEMICIRCULAR ANTICLOCKWISE ARROWlTRIANGLErULAR MEDIUM SHADEgONE EIGHTH BLOCKkQUARTER BLOCK",
    "gRIGHT BLOCK DIAGONAL LOWER CENTRE TO LOWER MIDDLE RIGHTzsUPPER MIDDLE RIGHTzyRIGHTziLEFT TO LOWER MIDDLE RIGHT",
    "zqUPPER CENTREzwMIDDLE RIGHTziMIDDLE LEFT TO UPPER CENTREzzeMIDDLE RIGHTzzeRIGHTzcUPPER MIDDLE LEFT TO UPPER CENTRE",
    "zzeRIGHTmCORNER WITH DOTmDROP-SHADOWED WHITE SQUAREmPENCILmQUADRANT CIRCULAR ARCmSEMICIRCULAR CLOCKWISE ARROW",
    "nHADOWED WHITE CIRCLEzcSQUAREmTRIANGLEsULAR MEDIUM SHADEgSEVEN EIGHTHS BLOCKgTHREE EIGHTHS BLOCKmQUARTERS BLOCK",
    "hRIANGULAR ONE QUARTER BLOCKcZENGEh DIVIDED BY HORIZONTAL RULEbREcIcMcObUGGAGEcNGSbYCIAN LETTER ApNoBpHoDoEpNoGoHoIoJoKpK",
    "oLoMpMoNpNoPoQoRoSoTpHpToUoWoXoZcDIAN LETTER ApNoBoCoDoEpNoFoGoIoKoLpYoMoNpNoOoQoRoSpSoTpToUoVoYhTRIANGULAR MARKcING FACE",
    "aMACRONcGEdIC WANDdNETcHAJANI ABBREVIATION SIGNjLETTER AqBArHAqCArHAqDArDAsHArHAqEqGArHAqHAqIqJArHAqKArHAqLAqMAqNArNArYAqO",
    "qPArHAqRArRAqSAqTArHArTAsHAqUqVAkIGATURE SHRIjSECTION MARKkIGN NUKTAdJONG TILE AUTUMNnBACKpMBOOnCHRYSANTHEMUMnEAST WIND",
    "oIGHT OF BAMBOOSwCHARACTERSxIRCLESnFIVE OF BAMBOOSvCHARACTERSwIRCLESoOUR OF BAMBOOSvCHARACTERSwIRCLESnGREEN DRAGONnJOKER",
    "nNINE OF BAMBOOSvCHARACTERSwIRCLESoORTH WINDnONE OF BAMBOOSuCHARACTERSvIRCLESoRCHIDnPLUMnRED DRAGONnSEVEN OF BAMBOOS",
    "wCHARACTERSxIRCLESoIX OF BAMBOOSuCHARACTERSvIRCLESoOUTH WINDoPRINGoUMMERnTHREE OF BAMBOOSwCHARACTERSxIRCLESoWO OF BAMBOOS",
    "uCHARACTERSvIRCLESnWEST WINDoHITE DRAGONoINTERcKASAR ANGKAiEND OF SECTIONiLETTER ApBApCApDApGApJApKApLApMApNAqGAqYApPApRA",
    "pSApTApVApYAiPASSIMBANGiVOWEL SIGN EtItOtUcLAYALAM AU LENGTH MARKkDATE MARKlIGIT EIGHTqFIVErOURqNINEqONEqSEVENrIXqTHREErWO",
    "qZEROkFRACTION ONE EIGHTHxFIFTHyORTIETHxHALFxONE-HUNDRED-AND-SIXTIETHxQUARTERxSIXTEENTHxTENTHyWENTIETHtTHREE EIGHTIETHS",
    "zaQUARTERSzaSIXTEENTHSzaTWENTIETHSkLETTER AsAsIsRCHAIC IIsUrBAsHArCAsHAtILLU KyLzaLzbLyMyNzaNyRRyYrDAsDAtHAsHAsOT REPHrEsE",
    "rGAsHArHArIsIrJAsHArKAsHArLAsLAtLArMArNAsGAsNAtNAsYArOsOrPAsHArRAsRArSAsHAsSArTAsHAsTAtHAtTArUsUrVAsEDIC ANUSVARAsOCALIC L",
    "zbLzaRzbRrYAkNUMBER ONE HUNDREDvTHOUSANDrTENkSIGN ANUSVARAqVAGRAHApCANDRABINDUqIRCULAR VIRAMAqOMBINING ANUSVARA ABOVEpPARA",
    "pVERTICAL BAR VIRAMAqIRAMArSARGAkVOWEL SIGN AAwIwUvEwEvIwIvOwOvUwUvVOCALIC LzfLzeRzfRdE AND FEMALE SIGNfSIGN",
    "fWITH STROKE AND MALE AND FEMALE SIGNrSIGNdTESE CROSScMMOTHcNd AND WOMAN HOLDING HANDSeDANCINGeIN BUSINESS SUIT LEVITATING",
    "hTUXEDOeWITH GUA PI MAOjTURBANdAT SIGNdDAIC AFFRICATION MARKiGEMINATION MARKiLETTER ABqDqGqHqINqKrSAqLqMqNqPqQqRqSrHrZqTrT",
    "qZpDUSHENNApHALQApINqTpKADpUSHENNAiPUNCTUATIONiVOCALIZATION MARKdGOdICHAEAN ABBREVIATION MARK ABOVEzeBELOWlLETTER AAYIN",
    "tLEPHtYINsBETHtHETHsDALETHtHAMEDHsFEsGHIMELtIMELsHEuTHsJAYINtHAYINsKAPHtHAPHsLAMEDHsMEMsNUNsPEsQHOPHtOPHsRESHsSADHEuMEKH",
    "tHINtSHINsTAWtETHtHAMEDHsWAWsXAPHtOPHsYODHsZAYINtHAYINlNUMBER FIVEsONEv HUNDREDsTENtWENTYlPUNCTUATION DOTzb WITHIN DOT",
    "zaUBLE DOT WITHIN DOTxFLEURONxLINE FILLERxSTARxTWO DOTSlSIGN UDdS SHOEdTELPIECE CLOCKdUAL WHEELCHAIR",
    "cP SYMBOL FOR LIGHTHOUSEdLE LEAFcRCHEN HEAD MARKiLETTER -ApApBApCAqHApDAqZApGApHApJApKAqHApLApMApNAqGAqYApPAqHApRApSAqHA",
    "pTAqHAqSArHApWApYApZAqHAiMARK SHADiSIGN ANUSVARAnCANDRABINDUjUBJOINED LETTER AzaBAzaCAzbHAzaDAzbZAzaGAzaHAzaJAzaKAzbHAzaLA",
    "zaMAzaNAzbGAzbYAzaPAzbHAzaRAzaSAzbHAzaTAzbHAzbSAzcHAzaWAzaYAzaZAzbHAiVOWEL SIGN AAtEtItOtUdRIAGE SYMBOLdTIAL ARTS UNIFORM",
    "cSARAM GONDI DIGIT EIGHTuFIVEvOURuNINEuONEuSEVENvIXuTHREEvWOuZEROoLETTER AwAwIwUvBAwHAvCAwHAvDAwDAxHAwHAvEvGAwHAvHAvIwIvJA",
    "wHAwNYAvKAwHAwSSAvLAwLAvMAvNAwGAwNAwYAvOvPAwHAvRAvSAwHAwSAvTAwHAwRAwTAxHAvUwUvVAvYAoRA-KARApEPHAoSIGN ANUSVARAtCANDRA",
    "tHALANTAtNUKTAtVISARGAoVIRAMApOWEL SIGN AAzbIzbUzaEzaIzbIzaOzaUzbUzaVOCALIC RdCULINE ORDINAL INDICATORdK WORK SYMBOL",
    "dU MARKcTE DRINKdHEMATICAL BOLD CAPITAL AzcLPHAzbBzcETAzbCzcHIzbDzcELTAzcIGAMMAzbEzcPSILONzcTAzbFzbGzcAMMAzbHzbIzcOTAzbJ",
    "zbKzcAPPAzbLzcAMDAzbMzcUzbNzcUzbOzcMEGAzdICRONzbPzcHIzcIzcSIzbQzbRzcHOzbSzcIGMAzbTzcAUzcHETAzg SYMBOLzbUzcPSILONzbVzbWzbX",
    "zcIzbYzbZzcETAsDIGIT EIGHTyFIVEzaOURyNINEyONEySEVENzaIXyTHREEzaWOyZEROsEPSILON SYMBOLsFRAKTUR CAPITAL AzjBzjCzjDzjEzjFzjG",
    "zjHzjIzjJzjKzjLzjMzjNzjOzjPzjQzjRzjSzjTzjUzjVzjWzjXzjYzjZzbSMALL AzhBzhCzhDzhEzhFzhGzhHzhIzhJzhKzhLzhMzhNzhOzhPzhQzhRzhS",
    "zhTzhUzhVzhWzhXzhYzhZsITALIC CAPITAL AzjLPHAziBzjETAziCzjHIziDzjELTAziEzjPSILONzjTAziFziGzjAMMAziHziIzjOTAziJziKzjAPPAziL",
    "zjAMDAziMzjUziNzjUziOzjMEGAzkICRONziPzjHIzjIzjSIziQziRzjHOziSzjIGMAziTzjAUzjHETAzn SYMBOLziUzjPSILONziVziWziXzjIziYziZ",
    "zjETAzaEPSILON SYMBOLzaKAPPA SYMBOLzaNABLAzaPARTIAL DIFFERENTIALzbHI SYMBOLzbI SYMBOLzaRHO SYMBOLzaSMALL AzhLPHAzgBzhETA",
    "zgCzhHIzgDzhELTAzgEzhPSILONzhTAzgFzhINAL SIGMAzgGzhAMMAzgHzgIzhOTAzgJzgKzhAPPAzgLzhAMDAzgMzhUzgNzhUzgOzhMEGAziICRONzgPzhHI",
    "zhIzhSIzgQzgRzhHOzgSzhIGMAzgTzhAUzhHETAzgUzhPSILONzgVzgWzgXzhIzgYzgZzhETAzaTHETA SYMBOLsKAPPA SYMBOLsNABLA",
    "sPARTIAL DIFFERENTIALtHI SYMBOLtI SYMBOLsRHO SYMBOLsSCRIPT CAPITAL AziBziCziDziEziFziGziHziIziJziKziLziMziNziOziPziQziRziS",
    "ziTziUziVziWziXziYziZzaSMALL AzgBzgCzgDzgEzgFzgGzgHzgIzgJzgKzgLzgMzgNzgOzgPzgQzgRzgSzgTzgUzgVzgWzgXzgYzgZtMALL AzaLPHAyB",
    "zaETAyCzaHIyDzaELTAzaIGAMMAyEzaPSILONzaTAyFzaINAL SIGMAyGzaAMMAyHyIzaOTAyJyKzaAPPAyLzaAMDAyMzaUyNzaUyOzaMEGAzbICRONyPzaHI",
    "zaIzaSIyQyRzaHOySzaIGMAyTzaAUzaHETAyUzaPSILONyVyWyXzaIyYyZzaETAsTHETA SYMBOLnDOUBLE-STRUCK CAPITAL AzkBzkDzkEzkFzkGzkIzkJ",
    "zkKzkLzkMzkOzkSzkTzkUzkVzkWzkXzkYzcDIGIT EIGHTziFIVEzjOURziNINEziONEziSEVENzjIXziTHREEzjWOziZEROzcSMALL AziBziCziDziEziF",
    "ziGziHziIziJziKziLziMziNziOziPziQziRziSziTziUziVziWziXziYziZnFALLING DIAGONALoRAKTUR CAPITAL AzeBzeDzeEzeFzeGzeJzeKzeLzeM",
    "zeNzeOzePzeQzeSzeTzeUzeVzeWzeXzeYvSMALL AzcBzcCzcDzcEzcFzcGzcHzcIzcJzcKzcLzcMzcNzcOzcPzcQzcRzcSzcTzcUzcVzcWzcXzcYzcZ",
    "nITALIC CAPITAL AzeLPHAzdBzeETAzdCzeHIzdDzeELTAzdEzePSILONzeTAzdFzdGzeAMMAzdHzdIzeOTAzdJzdKzeAPPAzdLzeAMDAzdMzeUzdNzeUzdO",
    "zeMEGAzfICRONzdPzeHIzeIzeSIzdQzdRzeHOzdSzeIGMAzdTzeAUzeHETAzi SYMBOLzdUzePSILONzdVzdWzdXzeIzdYzdZzeETAuEPSILON SYMBOL",
    "uKAPPA SYMBOLuNABLAuPARTIAL DIFFERENTIALvHI SYMBOLvI SYMBOLuRHO SYMBOLuSMALL AzcLPHAzbBzcETAzbCzcHIzbDzcELTAzcOTLESS IzjJ",
    "zbEzcPSILONzcTAzbFzcINAL SIGMAzbGzcAMMAzbIzcOTAzbJzbKzcAPPAzbLzcAMDAzbMzcUzbNzcUzbOzcMEGAzdICRONzbPzcHIzcIzcSIzbQzbRzcHO",
    "zbSzcIGMAzbTzcAUzcHETAzbUzcPSILONzbVzbWzbXzcIzbYzbZzcETAuTHETA SYMBOLnLEFT ANGLE BRACKETsDOUBLE ANGLE BRACKET",
    "sFLATTENED PARENTHESISsWHITE SQUARE BRACKETyTORTOISE SHELL BRACKETnMONOSPACE CAPITAL AzgBzgCzgDzgEzgFzgGzgHzgIzgJzgKzgLzgM",
    "zgNzgOzgPzgQzgRzgSzgTzgUzgVzgWzgXzgYzgZxDIGIT EIGHTzeFIVEzfOURzeNINEzeONEzeSEVENzfIXzeTHREEzfWOzeZEROxSMALL AzeBzeCzeDzeE",
    "zeFzeGzeHzeIzeJzeKzeLzeMzeNzeOzePzeQzeRzeSzeTzeUzeVzeWzeXzeYzeZnRIGHT ANGLE BRACKETtDOUBLE ANGLE BRACKET",
    "tFLATTENED PARENTHESIStWHITE SQUARE BRACKETzaTORTOISE SHELL BRACKETpSING DIAGONALnSANS-SERIF BOLD CAPITAL AznLPHAzmBznETA",
    "zmCznHIzmDznELTAzmEznPSILONznTAzmFzmGznAMMAzmHzmIznOTAzmJzmKznAPPAzmLznAMDAzmMznUzmNznUzmOznMEGAzoICRONzmPznHIznIznSIzmQ",
    "zmRznHOzmSznIGMAzmTznAUznHETAzr SYMBOLzmUznPSILONzmVzmWzmXznIzmYzmZznETAzeDIGIT EIGHTzkFIVEzlOURzkNINEzkONEzkSEVENzlIX",
    "zkTHREEzlWOzkZEROzeEPSILON SYMBOLzeITALIC CAPITAL AzuLPHAztBzuETAztCzuHIztDzuELTAztEzuPSILONzuTAztFztGzuAMMAztHztIzuOTAztJ",
    "ztKzuAPPAztLzuAMDAztMzuUztNzuUztOzuMEGAzvICRONztPzuHIzuIzuSIztQztRzuHOztSzuIGMAztTzuAUzuHETAzy SYMBOLztUzuPSILONztVztWztX",
    "zuIztYztZzuETAzlEPSILON SYMBOLzlKAPPA SYMBOLzlNABLAzlPARTIAL DIFFERENTIALzmHI SYMBOLzmI SYMBOLzlRHO SYMBOLzlSMALL AzsLPHA",
    "zrBzsETAzrCzsHIzrDzsELTAzrEzsPSILONzsTAzrFzsINAL SIGMAzrGzsAMMAzrHzrIzsOTAzrJzrKzsAPPAzrLzsAMDAzrMzsUzrNzsUzrOzsMEGA",
    "ztICRONzrPzsHIzsIzsSIzrQzrRzsHOzrSzsIGMAzrTzsAUzsHETAzrUzsPSILONzrVzrWzrXzsIzrYzrZzsETAzlTHETA SYMBOLzeKAPPA SYMBOLzeNABLA",
    "zePARTIAL DIFFERENTIALzfHI SYMBOLzfI SYMBOLzeRHO SYMBOLzeSMALL AzlLPHAzkBzlETAzkCzlHIzkDzlELTAzkEzlPSILONzlTAzkF",
    "zlINAL SIGMAzkGzlAMMAzkHzkIzlOTAzkJzkKzlAPPAzkLzlAMDAzkMzlUzkNzlUzkOzlMEGAzmICRONzkPzlHIzlIzlSIzkQzkRzlHOzkSzlIGMAzkTzlAU",
    "zlHETAzkUzlPSILONzkVzkWzkXzlIzkYzkZzlETAzeTHETA SYMBOLyCAPITAL AzhBzhCzhDzhEzhFzhGzhHzhIzhJzhKzhLzhMzhNzhOzhPzhQzhRzhSzhT",
    "zhUzhVzhWzhXzhYzhZyDIGIT EIGHTzfFIVEzgOURzfNINEzfONEzfSEVENzgIXzfTHREEzgWOzfZEROyITALIC CAPITAL AzoBzoCzoDzoEzoFzoGzoHzoI",
    "zoJzoKzoLzoMzoNzoOzoPzoQzoRzoSzoTzoUzoVzoWzoXzoYzoZzgSMALL AzmBzmCzmDzmEzmFzmGzmHzmIzmJzmKzmLzmMzmNzmOzmPzmQzmRzmSzmTzmU",
    "zmVzmWzmXzmYzmZySMALL AzfBzfCzfDzfEzfFzfGzfHzfIzfJzfKzfLzfMzfNzfOzfPzfQzfRzfSzfTzfUzfVzfWzfXzfYzfZoCRIPT CAPITAL AzdCzdD",
    "zdGzdJzdKzdNzdOzdPzdQzdSzdTzdUzdVzdWzdXzdYzdZuSMALL AzbBzbCzbDzbFzbHzbIzbJzbKzbLzbMzbNzbPzbQzbRzbSzbTzbUzbVzbWzbXzbYzbZ",
    "cXIMIZEcYAN NUMERAL EIGHTtEENpLEVENoFIFTEENqVEpOURsTEENoNINEsTEENoONEoSEVENtTEENpIXrTEENoTENpHIRTEENqREEpWELVEqOoZERO",
    "bEASURED ANGLEo OPENING LEFTpWITH OPEN ARM ENDING IN ARROW POINTING DOWN AND LEFTzznRIGHTzzeLEFT AND DOWNzznUP",
    "zzeRIGHT AND DOWNzzoUPzzeUP AND LEFTzzlRIGHTjBYjRIGHT ANGLE WITH DOTdT ON BONEcCHANICAL ARMlLEGcDEFAIDRIN CAPITAL LETTER A",
    "zdIzdTIUzcBzcCzcDzcEzcFzcGzcHzdPzcIzcJzcKzdPzcLzcMzcNzdGzdYzcOzdEzcPzcQzcRzcSzcTzcUzcVzcWzcXzcYzdUzcZnOMMAmDIGIT EIGHT",
    "sFIVEtOURsNINEsONEv ALTERNATE FORMsSEVENtIXsTHREEx ALTERNATE FORMtWOv ALTERNATE FORMsZEROmEXCLAMATION OHmFULL STOP",
    "mNUMBER EIGHTEENuLEVENtFIFTEENuOURTEENtNINETEENtSEVENTEENuIXTEENtTENuHIRTEENuWELVEmSMALL LETTER AzbIzbTIUzaBzaCzaDzaEzaF",
    "zaGzaHzbPzaIzaJzaKzbPzaLzaMzaNzbGzbYzaOzbEzaPzaQzaRzaSzaTzaUzaVzaWzaXzaYzbUzaZnYMBOL AIVAdIEVAL COMMAjEXCLAMATION MARK",
    "jQUESTION MARKeUM BLACK CIRCLEiOLD WHITE CIRCLEhEIGHT POINTED BLACK STARnSPOKED ASTERISKhFIVE SPOKED ASTERISK",
    "iLATTENED LEFT PARENTHESIS ORNAMENTrRIGHT PARENTHESIS ORNAMENTiOUR POINTED BLACK STARuPINWHEEL STARhGREEK CROSS",
    "hLEFT CURLY BRACKET ORNAMENTmPARENTHESIS ORNAMENTl-POINTING ANGLE BRACKET ORNAMENThMATHEMATICAL SPACE",
    "hRIGHT CURLY BRACKET ORNAMENTnPARENTHESIS ORNAMENTm-POINTING ANGLE BRACKET ORNAMENThSALTIREiHADEiIX POINTED BLACK STAR",
    "lSPOKED ASTERISKiMALL WHITE CIRCLEhTHREE POINTED BLACK STARvPINWHEEL STARhVERTICAL BARhWHITE CIRCLEnSQUARE",
    "cETEI MAYEK AHANG KHUDAMoNJIoPUN IYEKnCHEIKHANtEInDIGIT EIGHTtFIVEuOURtNINEtONEtSEVENuIXtTHREEuWOtZEROnLETTER ATIYAuBAvHAM",
    "uCHAwILuDDAwHAvHOUvILuEuGHOUvOKuHUKuIv LONSUMuJHAMvILuKHOUvOKx LONSUMuLAIx LONSUMuMITx LONSUMuNAw LONSUMvGOUy LONSUMvNAvYA",
    "uOuPAw LONSUMvHAMuRAIuSAMvHAvSAuTHOUvILx LONSUMvTAwHAuUNuWAIuYANGoUM IYEKnSYLLABLE REPETITION MARKnVIRAMAoOWEL SIGN AAIzbU",
    "zaNAPzaUyCHEINAPyIIzaNAPyNUNGyONAPySOUNAPyUNAPzaUyVISARGAyYENAPnWORD REPETITION MARKcLONdTING FACEcMO",
    "cNDE KIKAKUI COMBINING NUMBER HUNDRED THOUSANDSznSzgMILLIONSzgTEENSziN THOUSANDSzjSzhHOUSANDSoDIGIT EIGHTuFIVEvOURuNINE",
    "uONEuSEVENvIXuTHREEvWOoSYLLABLE M001 KIzb2 KAzb3 KUzb4 WIzb5 WAzb6 WUzb7 MINzb8 MANzb9 MUNza10 BIzb1 BAzb2 BUzb3 Izb4 A",
    "zb5 Uzb6 DIzb7 DAzb8 DUzb9 SIza20 SAzb1 SUzb2 TIzb3 TAzb4 TUzb5 LIzb6 LAzb7 LUzb8 JIzb9 JAza30 JUzb1 YIzb2 YAzb3 YUzb4 FI",
    "zb5 FAzb6 FUzb7 NINzb8 NANzb9 NUNza40 HEEzb1 HAzb2 HOOzb3 NGGAzb4 KPEEzb5 WOzb6 HUANzb7 MBEEzb8 KOzb9 WVAza50 PUzb1 PE",
    "zb2 HENzb3 HINzb4 LOOzb5 TEzb6 GBAzb7 NGONzb8 NYANzb9 MENza60 NYONzb1 WVIzb2 MBAzb3 JOzb4 NDOzb5 KEEzb6 POzb7 NDOOzb8 PI",
    "zb9 TOza70 GBOzb1 GBOOzb2 MBEzb3 LEzb4 KPUzb5 FEzb6 KOOzb7 VOzb8 FEEzb9 SOza80 YEzb1 PEEzb2 NGGUzb3 HEEIzb4 LEEzb5 VE",
    "zb6 LONG NGGEzb7 HUNzb8 FOzb9 DEEza90 NGGIzb1 TEEzb2 KPAzb3 GBEEzb4 MONzb5 KEzb6 HEzb7 BEzb8 NYENzb9 PAy100 Ezb1 FAN",
    "zb2 POOzb3 BOOzb4 TOOzb5 LONG MBOOzb6 LONG NGGOOzb7 GBEzb8 KPEzb9 YEEza10 LONG LEzb1 GAzb2 KPOOzb3 JEzb4 WOOzb5 NGGEE",
    "zb6 SEzb7 NENzb8 WEzb9 NDEza20 NGGOzb1 YOzb2 MBUzb3 NDIzb4 GBIzb5 NDUzb6 WEEzb7 NGGUAzb8 HOOUzb9 NDAza30 HANzb1 INzb2 KPI",
    "zb3 FOOzb4 NJOOzb5 INzb6 SOOzb7 EIzb8 BOzb9 WVEza40 HOzb1 YOOzb2 LONG MBOzb3 WEIzb4 VOOzb5 MBIzb6 NGGEzb7 Ozb8 GBUzb9 NJEE",
    "za50 BEEzb1 VUzb2 NJAzb3 LOzb4 MUANzb5 GIzb6 NGGOOzb7 JEEzb8 KPOzb9 NGGAAza60 JOOzb1 LONG MBEzb2 SEEzb3 EEzb4 NYINzb5 OO",
    "zb6 GUEIzb7 GUANzb8 GUzb9 NONza70 NYUNzb1 RAzb2 MBOOzb3 VEEzb4 MBOzb5 LONG JOzb6 HIzb7 NGUANzb8 ENzb9 KUAza80 DOOzb1 DO",
    "zb2 VIzb3 LONG NGGOzb4 NGENzb5 VAzb6 HUzb7 MBUUzb8 MBEEzb9 MUENza90 GEEzb1 NDEEzb2 NJUzb3 HONzb4 WUIzb5 ANzb6 SIAzb7 FUA",
    "dORAH WITH NINE BRANCHESdS SYMBOLcRCURYdOITIC CURSIVE FRACTION EIGHT TWELFTHSzcLEVEN TWELFTHSzbFIVE TWELFTHSzcOUR TWELFTHS",
    "zbNINE TWELFTHSzbONE HALFzfTWELFTHzbSEVEN TWELFTHSzcIX TWELFTHSzbTEN TWELFTHSzcHREE TWELFTHSzcWO TWELFTHSrLETTER A",
    "zaRCHAIC SAyBAyDAyEyHHAyIyKAzaHAyLAyMAyNAzaEyOyPAyQAyRAySAzaEyTAzaEzaOyWAyYAsOGOGRAM IMNzbRMTrNUMBER EIGHTze HUNDRED",
    "zm THOUSANDzfTHOUSANDzeY THOUSANDyFIFTYze THOUSANDzbVEzd HUNDREDzl THOUSANDzeTHOUSANDzaORTYze THOUSANDzbURzd HUNDRED",
    "zl THOUSANDzeTHOUSANDyNINEzd HUNDREDzl THOUSANDzeTHOUSANDzdTY THOUSANDyONEzc HUNDREDzk THOUSANDzdTHOUSANDySEVENze HUNDRED",
    "zm THOUSANDzfTHOUSANDzeTYzg THOUSANDzaIXzc HUNDREDzk THOUSANDzdTHOUSANDzcTYze THOUSANDyTENzc THOUSANDzaHIRTYzf THOUSAND",
    "zbREEze HUNDREDzm THOUSANDzfTHOUSANDzaWENTYzf THOUSANDzbOzc HUNDREDzk THOUSANDzdTHOUSANDjHIEROGLYPHIC LETTER AzeBAzg-2zeDA",
    "zeEzeHHAzeIzeKAzfHAzeLAzeMAzeNAzg-2zfEzg-2zeOzePAzeQAzeRAzg-2zeSAzg-2zfEzeTAzg-2zfEzg-2zfOzeWAzeYAwSYMBOL VIDJzi-2dPERSON",
    "cSSAGE WAITINGcTRICAL BREVEjLONG OVER SHORTtTWO SHORTSjPENTASEMEjSHORT OVER LONGjTETRASEMEkRISEMEkWO SHORTS JOINED",
    "uOVER LONGeObIAO LETTER AHnRCHAIC MAuNAvGAuZZAmBAnRImDAnDAnLHApYAnZAoHAoYIoZAmFAmGAnHAoHAmHAnHAmKAmLAnHAoYAnYAmMAnHAmNA",
    "oSALIZATIONnGAoHAnHAnNAoHAnYAoHAmPAnLAmQAnGAmREFORMED TONE-1zb2zb4zb5zb6zb8wSHAnTEmSAnHAnSAnYImTAnEnLHApYAnONE-2r3r4r5r6r7",
    "r8nSAoEoHAoSAnTAmVAnFAmWAmXAmYI DZHApKApNNApPApTAqSArHAqTAmZAnHAnSAoHAnZAoSApYAoYAfSIGN ASPIRATIONkCONSONANT MODIFIER BAR",
    "kREFORMED ASPIRATIONtVOICINGfTONE ABOVEkBELOWkRIGHTkTOP RIGHTfVOWEL SIGN ArArEsErHHrIrNsGrUqErArIrNsGrRsRqIrAsNtGrErGrIrNG",
    "rOsNGrUqNrGqOrERsYrGrOrUqROUNDED ERzbRqUrAsNtGrEIrIrNGrOGrUqVWqWrOqYrIrUIcCR DASH SYMBOLfON US SYMBOLeO SIGNfBEfPHONE",
    "fSCOPEcDDLE DOThTHIRD WHITE RIGHT POINTING INDEXdLINE HORIZONTAL ELLIPSIScLITARY HELMETjMEDALdKY WAYdL SIGNcNIBUSeDISC",
    "eMIZEdUS SIGNk IN TRIANGLElWITH COMMA ABOVEqDOT BELOWqFALLING DOTSqRISING DOTSgTILDEf-OR-PLUS SIGNdYcRRORg BALLbMSP",
    "bOBILE PHONEm OFFnWITH RIGHTWARDS ARROW AT LEFTcDELSeRN PENTATHLONdI ABBREVIATION SIGNfDANDAgIGIT EIGHTlFIVEmOURlNINElONE",
    "lSEVENmIXlTHREEmWOlZEROgOUBLE DANDAfLETTER AnAnInUmBAnHAmCAnHAmDAnDAoHAnHAmEmGAnHAmHAmInImJAnHAmKAnHAmLAnLAmMAmNAnGAnNAnYA",
    "mOmPAnHAmRAmSAnHAnSAmTAnHAnTAoHAmUnUmVAnOCALIC LvLuRvRmYAfSIGN ANUSVARAlRDHACANDRAkHUVAkVIRAMAmSARGAfVOWEL SIGN AArIrUqEqI",
    "rIqOqUrUqVOCALIC LzaLyRzaReFIER BREVE WITH INVERTED BREVEjLETTER ACUTE ACCENTrLVEOLAR CLICKrPOSTROPHEqBEGIN HIGH TONE",
    "wLOW TONErILABIAL CLICKqCAPITAL AzaEyBzaARRED ByCyDyEyFyGyHza WITH STROKEyIyJyKyLyMyNyOzaUyPyQyRzaEVERSED EziNyTyUyVyW",
    "rENTRED LEFT HALF RINGyRIGHT HALF RINGrHINESE TONE YANG PINGzjQUzjRUzjSHANGzfIN PINGziQUziRUziSHANGrIRCUMFLEX ACCENTrOLON",
    "rROSS ACCENTrYRILLIC ENzaHARD SIGNzaSOFT SIGNqDENTAL CLICKrOT HORIZONTAL BARuSLASHuVERTICAL BARsUBLE APOSTROPHExPRIME",
    "sWN ARROWHEADvTACKqEND HIGH TONEuLOW TONErXTRA-HIGH DOTTED LEFT-STEM TONE BARzjTONE BARzcLEFT-STEM TONE BARzcTONE BAR",
    "wLOW DOTTED LEFT-STEM TONE BARziTONE BARzbLEFT-STEM TONE BARzbTONE BARqGEORGIAN NARrLOTTAL STOPzd WITH STROKErRAVE ACCENT",
    "qHALF TRIANGULAR COLONrIGH DOTTED LEFT-STEM TONE BARzdTONE BARvLEFT-STEM TONE BARvTONE BARqLATERAL CLICKrEFT ARROWHEAD",
    "vHALF RINGvTACKrOW ACUTE ACCENTuCIRCUMFLEX ACCENTuDOTTED LEFT-STEM TONE BARzcTONE BARwWN ARROWHEADuGRAVE ACCENT",
    "uINVERTED EXCLAMATION MARKuLEFT ARROWzfHEADy-STEM TONE BARuMACRONuRIGHT ARROWHEADwNGuTILDEvONE BARuUP ARROWHEAD",
    "uVERTICAL LINEtER RIGHT CORNER ANGLEqMACRONrID DOTTED LEFT-STEM TONE BARzcTONE BARuLEFT-STEM TONE BARuTONE BAR",
    "tDLE DOUBLE ACUTE ACCENTzfGRAVE ACCENTxGRAVE ACCENTsNUS SIGNqOPEN SHELFqPLUS SIGNrRIMEqRAISED COLONxDOWN ARROW",
    "xEXCLAMATION MARKxINVERTED EXCLAMATION MARKxUP ARROWrETROFLEX CLICK WITH RETROFLEX HOOKsVERSED COMMAzaGLOTTAL STOP",
    "zm WITH STROKErHOTIC HOOKrIGHT ARROWHEADwHALF RINGwTACKqSHELFsORT EQUALS SIGNrMALL AxExINxLPHAwBx WITH HOOKxARRED OxETA",
    "xOTTOM HALF OwCx WITH CURLxAPITAL AAzfBzfGzg WITH HOOKzfHzfIzg WITH STROKEzgNVERTED RzfLzg WITH BELTzfNzfOEzfRzfUzfYxHI",
    "xLOSED OMEGAzeREVERSED OPEN EwDx WITH HOOKzi AND TAILzeTAILxELTAyZH DIGRAPHxOTLESS J WITH STROKEzs AND HOOKxZ DIGRAPH",
    "zh WITH CURLznRETROFLEX HOOKwExNGxSHxTHxZHwFxENG DIGRAPHwGx WITH HOOKxAMMAxREEK GAMMAzdPHIwHx WITH HOOKzeSTROKExENG",
    "zb WITH HOOKwI WITH STROKExOTAwJx WITH CROSSED-TAILwKwLx WITH BELTzeINVERTED LAZY SzeMIDDLE TILDEzePALATAL HOOK",
    "zeRETROFLEX HOOKzs AND BELTxEZHzb WITH RETROFLEX HOOKxIGATURE OExS DIGRAPHxZ DIGRAPHwMx WITH HOOKwN WITH LEFT HOOK",
    "zeRETROFLEX HOOKwOx WITH STROKExPEN EzcOwPxHIwQwRx WITH FISHHOOKzeTAILxAMS HORNxEVERSED EzgGLOTTAL STOPzgOPEN EwS",
    "x WITH CURLzeHOOKxCHWAyRIPT GxIDEWAYS UwTx WITH PALATAL HOOKzeRETROFLEX HOOKxC DIGRAPH WITH CURLxESH DIGRAPHxHETA",
    "xOP HALF OxS DIGRAPHzh WITH RETROFLEX HOOKxURNED AzfEzfLPHAzeHzeIzeMzf WITH LONG LEGzeOPEN EzeRzf WITH HOOKzlLONG LEG",
    "zt AND RETROFLEX HOOKzeVzeWzeYzf WITH BELTwUx BARyWITH LEFT HOOKxPSILONwVx WITH HOOKzeRIGHT HOOKwWwXwYwZx WITH CURL",
    "zeRETROFLEX HOOKrTRESS AND HIGH TONEzcLOW TONErUPERSCRIPT HALF TRIANGULAR COLONzdTRIANGULAR COLONqTRIANGULAR COLON",
    "rURNED COMMAqUNASPIRATEDrP ARROWHEADtTACKrSqVERTICAL LINErOICINGqYANG DEPARTING TONE MARKrIN DEPARTING TONE MARK",
    "dULO TWO SUMcNEY BAGgWITH WINGSf-MOUTH FACEdGOLIAN BIRGAp WITH DOUBLE ORNAMENTvORNAMENTkCOLONmMMAkDIGIT EIGHTqFIVErOUR",
    "qNINEqONEqSEVENrIXqTHREErWOqZEROlOUBLE BIRGA WITH ORNAMENTkELLIPSISkFOUR DOTSlREE VARIATION SELECTOR FOURzjONEzjTHREEzkWO",
    "lULL STOPkINVERTED BIRGAy WITH DOUBLE ORNAMENTkLETTER AsLI GALI AzcHzcNUSVARA ONEzbBALUDAzbCAzbDAzdGALGAzdMARUzcDAzbHALF U",
    "zgYAzbIzcNVERTED UBADAMAzbKAzbNGAzcNAzbPAzcHAzbSSAzbTAzcHREE BALUDAzcTAzdHAzbUBADAMAzbVISARGA ONEzbZAzcHAsNGrBArCHA",
    "u WITH TWO DOTStIrDArEsErFArGArHAArIrJArKAsHArLAsHArMAtNCHU ALI GALI BHAziCAzjYAziDDHAzjHAziGHAziJHAziLHAziNGAziSSAziTA",
    "zjTAziZAzjHAyFAyIyKAyRAyZHArNArOsErPArQArRArSAsHAsIBE ANGwCHAwDAwEwFAwGAyAwHAyAwIxYwJAwKAwPAwRAAwSHAwTAxSAwUxEwZAxHArTA",
    "sODO ALI GALI TAzgZHAxNGwBAwCHAwDAxZAwEwGAyAwHAAwIwJAxIAwKAwLONG VOWEL SIGNwMAwNIAwOxEwPAwQAwTAxSAwUxEwWAwYAsSArUsErWArYA",
    "rZAsHIsRAkMANCHU COMMArFULL STOPkNIRUGUkROTATED BIRGAx WITH DOUBLE ORNAMENTzeORNAMENTkSIBE SYLLABLE BOUNDARY MARKER",
    "lWIRL BIRGAv WITH DOUBLE ORNAMENTzcORNAMENTkTODO SOFT HYPHENlRIPLE BIRGA WITH ORNAMENT",
    "lURNED SWIRL BIRGA WITH DOUBLE ORNAMENTkVOWEL SEPARATORdKEYg FACEdOGRAM FOR EARTHnYANGoINeRAILeSTABLE SYMBOLcOD BUBBLE",
    "dN CAKEfVIEWING CEREMONYcSQUEfITOcTHER CHRISTMASdOR BOATgSCOOTERfIZED WHEELCHAIRfWAYcUNT FUJIfAINi BICYCLISTjCABLEWAY",
    "jRAILWAYdSEf FACEgTRAPdTHcVIE CAMERAcYAIbRO DANDAfIGIT EIGHTkFIVElOURkNINEkONEkSEVENlIXkTHREElWOkZEROfOUBLE DANDAeLETTER A",
    "lBAlCHUlDAnIlEmAlHAInOlKEAAEmHAImOlLAnNlMAEMmIMlNGImINlOmLmOlPAmHIlRImOlSHIlTAmEKmHEAlWAlYObUCH GREATER-THANfLESS-THAN",
    "cLTANI LETTER ApBAqHApCAqHApDAqDArDArHAqHApEpGAqHApHApIpJAqJApKAqHApLApMApNAqNAqYApPAqHApRAqHAqRApSApTAqHAqTArHApUpVApYA",
    "iSECTION MARKeIMAPfPLE MUSICAL NOTEShICATION SIGNt IN DOUBLE CIRCLExLEFT HALF CIRCLExRIGHT HALF CIRCLExTRIANGLE",
    "uWITH DOT ABOVEzaUNDERBARpXfSETi MULTIPLICATIONjUNIONcSHROOMdIC FLAT SIGNgNATURAL SIGNgSHARP SIGNfAL KEYBOARDq WITH JACKS",
    "iNOTEiSCOREjYMBOL ARPEGGIATO DOWNzbUPpBEGIN BEAMvPHRASEvSLURvTIEqRACEtKETrEATH MARKsVEtISv RESTpC CLEFqAESURA",
    "qIRCLE X NOTEHEADqLIMACUSsVISrUSTER NOTEHEAD BLACKzhWHITEqODArMBINING ACCENTzg-STACCATOzbUGMENTATION DOTzaBENDzaDOIT",
    "zcUBLE TONGUEzcWN BOWzaFLAG-1zf2zf3zf4zf5zcIPzaHARMONICzaLOUREzaMARCATOzh-STACCATOzaRIPzaSMEARzbNAP PIZZICATO",
    "zbPRECHGESANG STEMzbTACCATISSIMOzhOzcEMzaTENUTOzbREMOLO-1zi2zi3zcIPLE TONGUEzaUP BOWsMON TIMEqRESCENDOrOIXqUT TIMEpDA CAPO",
    "rL SEGNOrMPt ALLrSHED BARLINEqECRESCENDOrGREE SLASHqOUBLE BARLINEwFLATwSHARPqRUM CLEF-1za2pEIGHTH NOTEwRESTqND BEAM",
    "tOF STIMMEtPHRASEtSLURtTIEpF CLEFv OTTAVA ALTAzeBASSAqERMATAw BELOWqINAL BARLINEsGERED TREMOLO-1zh2zh3rVE-LINE STAFF",
    "qLAT DOWNuUPqORTErUR-LINE STAFFuSTRING FRETBOARDqUSA BLACKuWHITEpG CLEFv OTTAVA ALTAzeBASSAqLISSANDO DOWNzaUP",
    "qRACE NOTE NO SLASHzbSLASHrEGORIAN C CLEFzaF CLEFpHALF NOTEuPEDAL MARKuRESTrUPTSTIMMEpINVERTED TURNpKIEVAN C CLEF",
    "wEIGHTH NOTE STEM DOWNzoUPxND OF PIECEwFINAL NOTExLAT SIGNwHALF NOTEwQUARTER NOTE STEM DOWNzpUPwRECITATIVE MARKwWHOLE NOTE",
    "qORONpLEFT REPEAT SIGNqONGAu IMPERFECTA RESTvPERFECTA RESTpMAXIMAqEZZOqINIMAv BLACKwRESTqOON NOTEHEAD BLACKzeWHITE",
    "qULTI RESTuPLE MEASURE RESTpNATURAL DOWNxUPqEBENSTIMMEqOTEHEAD BLACKqULL NOTEHEADpONE HUNDRED TWENTY-EIGHTH NOTEzqREST",
    "s-LINE STAFFqRNAMENT STROKE-1zh0zh1zg2zg3zg4zg5zg6zg7zg8zg9qTTAVA ALTAwBASSApPARENTHESIS NOTEHEADqEDAL MARKvUP MARK",
    "rS SUBPUNCTISqIANOqLUS NOTEHEADqODATUSrRRECTUSy FLEXUSpQUARTER NOTExRESTxTONE FLATzdSHARPrINDICESIMA ALTAzdBASSA",
    "pREPEAT DOTSvED FIGURE-1zg2zg3rVERSE FINAL BARLINEqIGHT REPEAT SIGNrNFORZANDOpSCANDICUSy FLEXUSqEGNOrMIBREVIS BLACKzbREST",
    "zbWHITEtMINIMA BLACKzbRESTzbWHITEqHARP DOWNvUPrORT BARLINEqINGLE BARLINErX-LINE STAFFtSTRING FRETBOARDsTEENTH NOTEzaREST",
    "tY-FOURTH NOTEzdRESTqORIqQUARE BwNOTEHEAD BLACKzgWHITEqUBITOpTEMPUS IMPERFECTUM CUM PROLATIONE IMPERFECTAzzj DIMINUTION-1",
    "zzv2zzv3zyPERFECTAwPERFECTUM CUM PROLATIONE IMPERFECTAzwPERFECTAzzf DIMINUTION-1qHIRTY-SECOND NOTEzeRESTrREE-LINE STAFF",
    "qORCULUSx RESUPINUSqRrIANGLE NOTEHEAD DOWN BLACKznWHITEziLEFT BLACKznWHITEziRIGHT BLACKzoWHITEziUP BLACKzlRIGHT BLACK",
    "zrWHITEzlWHITEx-ROUND NOTEHEAD DOWN BLACKztWHITEqURNt SLASHuUPqWO-LINE STAFFpVIRGAqOID NOTEHEADpWHOLE NOTEvREST",
    "qITH FINGERNAILSpX NOTEHEADpZbVSbWbYANMAR CONSONANT SIGN MEDIAL HAzfRAzfWAzfYAyON MEDIAL LAzjMAzjNAxSHAN MEDIAL WA",
    "iDIGIT EIGHToFIVEpOURoNINEoONEoSEVENpIXoTHREEpWOoZEROiLETTER AqITON RAqUpBAqHApCAqHApDAqDArHAqHApEqASTERN PWO KAREN GHWA",
    "ziNNAziYWApGAqHAqREAT SApHApIqIpJAqHApKAqHAsMTI CAxHAwDDAyHAxHAwFAwGAwHAxHAwJAxHAwLLAwNAxYAwRAwSAwTTAyHAwXAwZApLAqLApMA",
    "qON BBAvEtEtJHAtNGApNAqGAqNArYAqYApOpPAqHApRAqUMAI PALAUNG FApSAqGAW KAREN SHAqHAsN AuBAvHAuCAvHAuDAuFAuGAvHAuHAuJHAuKAvHA",
    "uNAvNAvYAuPHAuTHAuZArWE PALAUNG CHAzdSHAqSApTArI LAING BAzbHAzaDAzbDAzcHAzbHAzaFAzaGAzbHAzaJAzbHAzaLLAzaNNAzbYAqHAqTArHApU",
    "qUpVOCALIC LyLxRyRpWAqESTERN PWO KAREN PWAziTHApYAjOGOGRAM KHAMTI HMyOAYyQNiMODIFIER LETTER KHAMTI REDUPLICATION",
    "ySHAN REDUPLICATIONiSHAN DIGIT EIGHTtFIVEuOURtNINEtONEtSEVENuIXtTHREEuWOtZEROjIGN ANUSVARAoSATnDOT BELOWnKHAMTI TONE-1za3",
    "nLITTLE SECTIONnPAO KAREN TONEnRUMAI PALAUNG TONE-5nSECTIONoHAN COUNCIL EMPHATIC TONEzbTONE-2zg3sSAWsTONE-2x3x5x6",
    "nTAI LAING TONE-2zd5nVIRAMApSARGAnWESTERN PWO KAREN TONE-1zl2zl3zl4zl5jYMBOL AFOREMENTIONEDqITON EXCLAMATIONvONEvTWO",
    "pCOMPLETEDpGENITIVEpLOCATIVEpSHAN EXCLAMATIONuONEiTAI LAING DIGIT EIGHTyFIVEzaOURyNINEyONEySEVENzaIXyTHREEzaWOyZERO",
    "jONE MARK SGAW KAREN HATHIzeKE PHOiVOWEL SIGN AAuIvTON AzbItEu ABOVEtGEBA KAREN ItIuItKAYAH EEzaOEzaUtMON IIxO",
    "tSGAW KAREN EUuHAN AAyEza ABOVEyFINAL YtTALL AAtUuUtVOCALIC LzdLzcRzdRtWESTERN PWO KAREN EUzmUEaN-ARY CIRCLED DOT OPERATOR",
    "oPLUS OPERATORoTIMES OPERATORhOPRODUCTgINTERSECTIONgLOGICAL ANDoORgPRODUCTgSQUARE INTERSECTION OPERATORnUNION OPERATOR",
    "hUMMATIONgTIMES OPERATORgUNIONl OPERATOR WITH DOTzbPLUSgWHITE VERTICAL BARbABATAEAN CRUCIFORM NUMBER FOURkLETTER ALEPHsYIN",
    "rBETHrDALETHrFINAL ALEPHxBETHxHExKAPHxLAMEDHxMEMxNUNxSHINxYODHrGIMELrHEtTHrKAPHrLAMEDHrMEMrNUNrPErQOPHrRESHrSADHEtMEKHsHIN",
    "rTAWsETHrWAWrYODHrZAYINkNUMBER FIVEsOURrONEu HUNDREDrTENsHREEsWENTYtOdLAcIL POLISHdRA SIGNcKcME BADGEcND",
    "eINAGARI HEADSTROKEmLETTER AuAuIuUtBAuHAtCAuHAtDAuDAvHAuHAtEtGAuHAtHAtIuItJAuHAtKAuHAtLAuLAtMAtNAuGAuNAuYAtOtPAuHAtRAuRA",
    "tSAuHAuSAtTAuHAuTAvHAtUuUtVAuOCALIC RzdRtYAmSIGN ANUSVARAsVAGRAHArSIDDHAMrVIRAMAtSARGAmVOWEL SIGN AAyIyUxExIyIxO",
    "xPRISHTHAMATRA ExUyUxVOCALIC RzhRcRROW NO-BREAK SPACEcTIONAL DIGIT SHAPESjPARKcUSEATED FACEcZAR AMULETbBHcSPbECKTIE",
    "cGATED DOUBLE VERTICAL BAR DOUBLE RIGHT TURNSTILEfIVE ACKNOWLEDGEjCIRCLED DIGIT ZEROrLATIN CAPITAL LETTER AznBznCznDznEznF",
    "znGznHznIznJznKznLznMznNznOznPznQznRznSznTznUznVznWznXznYznZrNUMBER EIGHTEENzaLEVENyFIFTEENzaOURTEENyNINETEENySEVENTEEN",
    "zaIXTEENyTHIRTEENzaWELVEzcNTYrSQUARErTRIANGLEjDIAGONAL CROSSsDIAMONDsMIDDLE RIGHT TO LOWER CENTREjSQUARED ABrCROSS MARKrIC",
    "rLATIN CAPITAL LETTER AznBznCznDznEznFznGznHznIznJznKznLznMznNznOznPznQznRznSznTznUznVznWznXznYznZrPArQUESTION MARKrSArWC",
    "cITHER A SUBSET OF NOR EQUAL TOmPERSET OF NOR EQUAL TOjPPROXIMATELY NOR ACTUALLY EQUAL TOiGREATER-THAN NOR EQUAL TO",
    "zdIVALENT TOzaLESS-THANiLESS-THAN NOR EQUAL TOzaIVALENT TOwGREATER-THANcLcPTUNEh FORM TWOcRD FACEcSSUSdT WITH EGGS",
    "eING DOLLScUTEReRAL CHESS BISHOPu ROTATED NINETY DEGREESzeTWO HUNDRED SEVENTY DEGREESoEQUIHOPPERy ROTATED NINETY DEGREES",
    "oKINGs ROTATED NINETY DEGREESzcTWO HUNDRED SEVENTY DEGREESpNIGHTu ROTATED FORTY-FIVE DEGREESzeNINETY DEGREES",
    "zeONE HUNDRED THIRTY-FIVE DEGREESzeTHREE HUNDRED FIFTEEN DEGREESzfWO HUNDRED SEVENTY DEGREESzqTWENTY-FIVE DEGREESoPAWN",
    "s ROTATED NINETY DEGREESzcTWO HUNDRED SEVENTY DEGREESoQUEENt ROTATED NINETY DEGREESzdTWO HUNDRED SEVENTY DEGREESoROOK",
    "s ROTATED NINETY DEGREESzcTWO HUNDRED SEVENTY DEGREESoTURNED BISHOPvKINGwNIGHTvPAWNvQUEENvROOKiFACEcW LINEeMOON SYMBOL",
    "jWITH FACEeSHEQEL SIGNeTAI LUE DIGIT EIGHTsFIVEtOURsNINEsONEsSEVENtIXsTHREEtWOsZEROmLETTER FINAL BzaDzaKzaMzaNzbGzaV",
    "tHIGH BAyDAyFAyHAyKAzaVAyLAyMAyNAzaGAyPAzaHAyQAySAzaUAyTAzaHAzaSAyVAyXAzaVAyYAtLOW BAxDAxFAxHAxKAyVAxLAxMAxNAyGAxPAyHAxQA",
    "xSAyUAxTAyHAySAxVAxXAyVAxYAmSIGN LAEuVmTHAM DIGIT ONEnONE MARK-1w2mVOWEL SIGN AAzaYyEyYxExIIyYxOyAzaYyYxUyEzaYyUyY",
    "xVOWEL SHORTENERdA ABBREVIATION SIGNfCOMMAfDANDAgIGIT EIGHTlFIVEmOURlNINElONElSEVENmIXlTHREEmWOlZEROgOUBLE COMMAmDANDA",
    "fGAP FILLERfINSERTION SIGNfLETTER AnAnInUmBAnHAmCAnHAmDAnDAoHAnHAmEmGAnHAmHAmInImJAnHAmKAnHAmLAnHAmMAnHAmNAnGAoHAnHAnNAnYA",
    "oHAmOmPAnHAmRAnHAmSAnHAnSAmTAnHAnTAoHAmUnUmVEDIC ANUSVARAnOCALIC LvLuRvRmWAmYAfOMfPLACEHOLDER MARKfSANDHI MARKgIDDHI",
    "hGN ANUSVARAlVAGRAHAkCANDRABINDUkFINAL ANUSVARAkJIHVAMULIYAkNUKTAkUPADHMANIYAkVIRAMAmSARGAfVOWEL SIGN AArIrUqEqIrIqOqUrU",
    "qVOCALIC LzaLyRzaRdLINE LEFTiRIGHTdSPAPERcXT LINEfPAGEbIGHT WITH STARScNJAbKO COMBINING DOUBLE DOT ABOVE",
    "oLONG DESCENDING TONEtHIGH TONEtLOW TONEtRISING TONEoNASALIZATION MARKoSHORT HIGH TONEuLOW TONEuRISING TONEhMAeDANTAYALAN",
    "fIGIT EIGHTkFIVElOURkNINEkONEkSEVENlIXkTHREElWOkZEROfOROME SIGNeEXCLAMATION MARKeHIGH TONE APOSTROPHEeLAJANYALANfETTER A",
    "lBAlCHAlDAnGBASINNAlEmElFAlGBAlHAlIlJAmONA CHAqJAqRAlKAlLAlMAlNmAn WOLOSOmYAo WOLOSOlOmOlPAlRAmRAlSAlTAlUlWAlYA",
    "fOW TONE APOSTROPHEeSYMBOL GBAKURUNENlOO DENNENeTAMAN SIGNbLbNBSPbO BICYCLESeREAK HEREdENTRYi SIGNdMOBILE PHONES",
    "dONE UNDER EIGHTEEN SYMBOLdPEDESTRIANSeIRACYdSMOKING SYMBOLc-BREAK SPACEcMINAL DIGIT SHAPESeSMA SIGNcN-BREAKING HYPHEN",
    "ePOTABLE WATER SYMBOLdFORKINGcRdDIC MARK SIGNdMAL SUBGROUP OFs OR EQUAL TOdTH EAST AND SOUTH WEST ARROWmRROW",
    "q AND SOUTH EAST ARROWrCROSSING NORTH WEST ARROWzbSOUTH EAST ARROWrWITH HOOKlBLACK ARROWlDOUBLE ARROWlPOINTING BUDuLEAF",
    "uVINE LEAFlSANS-SERIF ARROWlTRIANGLE-HEADED ARROWzh TO BARlWHITE ARROWgINDIC FRACTION ONE EIGHTHzaHALFzaQUARTERzaSIXTEENTH",
    "vTHREE QUARTERSzcSIXTEENTHSmPLACEHOLDER MARKmQUANTITY MARKpRTER MARKmRUPEE MARKgWEST AND SOUTH EAST ARROWmRROW",
    "q AND NORTH EAST ARROWrCROSSING NORTH EAST ARROWrTO CORNERuLONG BARrWITH HOOKlBLACK ARROWlDOUBLE ARROWlPOINTING BUDuLEAF",
    "uVINE LEAFlSANS-SERIF ARROWlTRIANGLE-HEADED ARROWzh TO BARlWHITE ARROWfEAST-POINTING AIRPLANEcSEcT A SUBSET OFiPERSET OF",
    "fLMOST EQUAL TOfN ELEMENT OFfSYMPTOTICALLY EQUAL TOeCHECK MARKeEQUAL TOhIVALENT TOeGREATER-THANeIDENTICAL TOeLESS-THAN",
    "eNORMAL SUBGROUP OFw OR EQUAL TOePARALLEL TOeSIGNfQUARE IMAGE OF OR EQUAL TOlORIGINAL OF OR EQUAL TOeTILDEfRUE",
    "dCHED LEFT SEMICIRCLE WITH THREE DOTSjOWER RIGHT-SHADOWED WHITE RIGHTWARDS ARROWiRIGHT SEMICIRCLE WITH THREE DOTS",
    "iUPPER RIGHT-SHADOWED WHITE RIGHTWARDS ARROWdEe PADhGEeBOOKi WITH DECORATIVE COVERbULdLcMBER EIGHTEEN FULL STOP",
    "iLEVEN FULL STOPhFIFTEEN FULL STOPiOURTEEN FULL STOPhNINETEEN FULL STOPhSEVENTEEN FULL STOPiIGNjXTEEN FULL STOP",
    "hTEN FULL STOPiHIRTEEN FULL STOPiWELVE FULL STOPkNTY FULL STOPdERO SIGNcSHU CHARACTER-1B170u1u2u3u4u5u6u7u8u9uAuBuCuDuEuF",
    "t80u1u2u3u4u5u6u7u8u9uAuBuCuDuEuFt90u1u2u3u4u5u6u7u8u9uAuBuCuDuEuFtA0u1u2u3u4u5u6u7u8u9uAuBuCuDuEuFtB0u1u2u3u4u5u6u7u8u9uA",
    "uBuCuDuEuFtC0u1u2u3u4u5u6u7u8u9uAuBuCuDuEuFtD0u1u2u3u4u5u6u7u8u9uAuBuCuDuEuFtE0u1u2u3u4u5u6u7u8u9uAuBuCuDuEuFtF0u1u2u3u4u5",
    "u6u7u8u9uAuBuCuDuEuFs200u1u2u3u4u5u6u7u8u9uAuBuCuDuEuFt10u1u2u3u4u5u6u7u8u9uAuBuCuDuEuFt20u1u2u3u4u5u6u7u8u9uAuBuCuDuEuF",
    "t30u1u2u3u4u5u6u7u8u9uAuBuCuDuEuFt40u1u2u3u4u5u6u7u8u9uAuBuCuDuEuFt50u1u2u3u4u5u6u7u8u9uAuBuCuDuEuFt60u1u2u3u4u5u6u7u8u9uA",
    "uBuCuDuEuFt70u1u2u3u4u5u6u7u8u9uAuBuCuDuEuFt80u1u2u3u4u5u6u7u8u9uAuBuCuDuEuFt90u1u2u3u4u5u6u7u8u9uAuBuCuDuEuFtA0u1u2u3u4u5",
    "u6u7u8u9uAuBuCuDuEuFtB0u1u2u3u4u5u6u7u8u9uAuBuCuDuEuFtC0u1u2u3u4u5u6u7u8u9uAuBuCuDuEuFtD0u1u2u3u4u5u6u7u8u9uAuBuCuDuEuFtE0",
    "u1u2u3u4u5u6u7u8u9uAuBuCuDuEuFtF0u1u2u3u4u5u6u7u8u9uAuBgITERATION MARKcT AND BOLTbYIAKENG PUACHUE HMONG CIRCLED CA",
    "xDIGIT EIGHTzeFIVEzfOURzeNINEzeONEzeSEVENzfIXzeTHREEzfWOzeZEROxLETTER AzgAzfCAzfDAzgLAzfEzgEzfFAzfGAzfHAzhHzfIzfKAzfLAzfMA",
    "zgLAzfNAzgCAzgKAzgPAzhLAzgQAzgRAzgTAzhSAzhXAzgYAzfOzgOzfPAzgLAzfQAzfRAzgRAzfSAzfTAzgSAzgXAzfUzfVAzfWzfXAzgYAzfYAzfZA",
    "yOGOGRAM NYAJxSIGN FOR ANIMALzhINVERTEBRATEzhLOCATIONzhPERSONzhTHINGzdXW XWyYLLABLE LENGTHENERxTONE-BzdDzdGzdJzdMzdSzdV",
    "aOBJECT REPLACEMENT CHARACTERcLIQUE ANGLE OPENING DOWNwUPiHYPHENcSERVER EYE SYMBOLbCR AMOUNT OF CHECKeBELT BUCKLEfOW TIE",
    "fRANCH BANK IDENTIFICATIONeCHAIRfUSTOMER ACCOUNT NUMBEReDASHfOUBLE BACKSLASHeFORKeHOOKeINVERTED FORKcTAGONAL SIGNdOPUSbDEN",
    "bFFICE BUILDINGbGHAM FEATHER MARKgLETTER AILMnBEITHnCEIRToOLLnDAIRnEABHADHpDHADHpMHANCHOLLnFEARNnGORTnIFINoODHADHnLUIS",
    "nMUINnNGEADALoIONnONNoRnPEITHnRUISnSAILoTRAIFnTINNEnUATHoILLEANNoRgREVERSED FEATHER MARKgSPACE MARKcONEKbHM SIGNbIL DRUM",
    "bK HAND SIGNbL CHIKI AHADjDIGIT EIGHTpFIVEqOURpNINEpONEpSEVENqIXpTHREEqWOpZEROjGAAHLAA TTUDDAAGjLETTER AAJsKsMsWrGrLrNGrT",
    "qEDDrNrPrRRqIHrNYrRrSqLAsArErIrOrUqOBrHrTTrVqUCrDrNNrYjMU TTUDDAGl-GAAHLAA TTUDDAAGjPHAARKAAkUNCTUATION DOUBLE MUCAAD",
    "vMUCAADjRELAAcD CHINESE HOOK MARKmITERATION MARKeHUNGARIAN CAPITAL LETTER AzfAzfKzfMBzfNDzeCLOSE EzeEzfBzfCzgHzgSzfDzfEzfF",
    "zfGzgYzfHzfJzfKzfLzgYzfMzgPzfNzgCzgTzh-SHAPED SIGNzgYzfPzfRzfSzgZzfTzgYzfVzfZzgSzeIzfIzeNIKOLSBURG OEzpUEzeOzfEEzfO",
    "zeRUDIMENTA OEzoUEzeSHORT ERzeUzfNKzfSzfUoNUMBER FIFTYxVEvONEy HUNDREDzaTHOUSANDvTENoSMALL LETTER AzdAzdKzdMBzdNDzcCLOSE E",
    "zcEzdBzdCzeHzeSzdDzdEzdFzdGzeYzdHzdJzdKzdLzeYzdMzePzdNzeCzeTzf-SHAPED SIGNzeYzdPzdRzdSzeZzdTzeYzdVzdZzeSzcIzdI",
    "zcNIKOLSBURG OEznUEzcOzdEEzdOzcRUDIMENTA OEzmUEzcSHORT ERzcUzdNKzdSzdUeITALIC LETTER AsBEsCHEsDEsEtFtKStLtMtNtRuStSuHuSsHE",
    "sItIsKAtEtHEtUsNORTHERN TSEsOsPEtHEsSHEtOUTHERN TSEsTEtHEsUtUsVEsYEsZElNUMERAL FIFTYvVEtONEtTENeKEY",
    "eNORTH ARABIAN LETTER AINzbLEFzaBEHzaDADzcLzaES-1zd2zd3zaFEHzaGEEMzbHAINzaHAHzbEHzaKAFzbHAHzaLAMzaMEEMzaNOONzaQAFzaREH",
    "zaSADzaTAHzbEHzbHALzcEHzaWAWzaYEHzaZAHzcINsNUMBER ONEzaTENzbWENTYePERMIC LETTER ANsBURsCHERYsDOItZHOIuITAsEtFsGAIsHAsItAtE",
    "sKOKEsLEIsMENOEsNENOEsOtOsPEEIsREIsSHCHOOIuOOItIIsTAItSIUsUsVERtOOIsYAuTtERvIvUtRYtUsZATAtHOIhSIAN NUMBER HUNDREDtONEtTEN",
    "uWENTYvOmSIGN AsURAMAZDAAzc-2zcHArBAtGAsUUMISHrCArDAtHYAAUSHzb-2sIsUrFArGAsUrHArIrJAsIrKAsUrLArMAsIsUrNAsUrPArRAsUrSAsHA",
    "sSArTAsHAsUrUrVAsIrXAsSHAAYATHIYArYArZAmWORD DIVIDERiONAL COMPUTEReSOGDIAN FRACTION ONE HALFmLETTER ALEPHvTERNATE AYINuYIN",
    "tBETHtFINAL ALEPHzaBETHzaHEzaNUNzd WITH VERTICAL TAILzaSADHEzf WITH VERTICAL TAILzaTAWzd WITH VERTICAL TAILtGIMELtHEvTH",
    "tKAPHtLAMEDHtMEMtNUNtPEtRESH-AYIN-DALETHtSADHEvMEKHuHINtTAWtWAWtYODHtZAYINnIGATURE AYIN-DALETHmNUMBER FIVEuOURtONE",
    "w HUNDREDtTENuHIRTYvREEuWENTYvOgUTH ARABIAN LETTER ALEFzbYNzaBETHzaDALETHzbHADHEzdLETHzaFEzaGHAYNzbIMELzaHEzcTHzaKAPH",
    "zbHETHzaLAMEDHzaMEMzaNUNzaQOPHzaRESHzaSADHEzcMEKHzcTzbHINzaTAWzbETHzbHAWzcETHzaWAWzaYODHzaZAYNsNUMBER FIFTYzaONE",
    "vERIC INDICATOReTURKIC LETTER ORKHON AzbBzbDzbEBzcDzcGzcKzcLzcNzcRzcSzcTzcYzbGzbLzbNzbQzbRzbSzcHzbTzbYzaBASHzaECzbLTzbM",
    "zbNCzcGzcTzcYzbPzbSHzbZzaIzbCzbQzaOzbEzcKzbPzbQzbTsYENISEI AzcBzcDzcEzdBzdGzdKzdNzeGzdTzdYzcGzcLzcNGzcQzcRzcSHzcTzcYzbEzcC",
    "zcNCzdTzdYzcSHzcZzbIzcQzbOEzdKzcQeUYGHUR COMBINING DOT ABOVEzaBELOWvTWO DOTS ABOVEzfBELOWlLETTER ALEPHsBETHsFINAL HETH",
    "sGIMEL-HETHsKAPHsLAMEDHtESHsMEMsNUNsPEsRESHsSADHEuMEKHtHINsTAWsWAWsYODHsZAYINlPUNCTUATION BARxFOUR DOTSxTWO BARSzcDOTS",
    "dER ADULTgMANgWOMANcIVEbM SYMBOLbN WITH EXCLAMATION MARK WITH LEFT RIGHT ARROW ABOVEcCOMING AUTOMOBILEjBUSjFIRE ENGINE",
    "jPOLICE CARjTAXIcE BUTTON MOUSEeDOT LEADERiOVER TWO DOTS PUNCTUATIONd-PIECE SWIMSUITcIONbPEN BOOKhXfCENTRE ASTERISK",
    "mBLACK STARmCROSSmTEARDROP-SPOKED ASTERISKfFILE FOLDERgOLDERfHANDS SIGNfLOCKfMAILBOX WITH LOWERED FLAGsRAISED FLAGfSUBSET",
    "hPERSETe-CIRCUIT-OUTPUT H-TYPE SYMBOLuL-TYPE SYMBOLfOUTLINED RIGHTWARDS ARROWdRATING SYSTEM COMMANDcHIUCHUScPOSITION",
    "cTICAL DISCm ICONeON KEYbR WITH DOT INSIDEcANGE BOOKhHEARTfUTANcIGINAL OFdYA AI LENGTH MARKhU LENGTH MARKgDIGIT EIGHTmFIVE",
    "nOURmNINEmONEmSEVENnIXmTHREEnWOmZEROgFRACTION ONE EIGHTHtHALFtQUARTERtSIXTEENTHpTHREE QUARTERSvSIXTEENTHSgISSHARgLETTER A",
    "oAoIoUnBAoHAnCAoHAnDAoDApHAoHAnEnGAoHAnHAnIoInJAoHAnKAoHAnLAoLAnMAnNAoGAoNAoYAnOnPAoHAnRAoHAoRAnSAoHAoSAnTAoHAoTApHAnUoU",
    "nVAoOCALIC LwLvRwRnWAnYAoYAgSIGN ANUSVARAmVAGRAHAlCANDRABINDUlNUKTAlOVERLINElVIRAMAnSARGAgVOWEL SIGN AAsIsUrErIsIrOrUsU",
    "rVOCALIC LzbLzaRzbRcNATE LEFT PARENTHESIShRIGHT PARENTHESIScTHODOX CROSSbSAGE CAPITAL LETTER AwHwIxNvBRAvCHAvDHAvEwHCHAxKA",
    "xPAxTAySAwINvGHAvHAwYAvIvKAwHAwYAvLAvMAvNAvOwINvPAvSAwHAvTAwSAxHAvUvWAvZAwHAgSMALL LETTER AuHuIvNtBRAtCHAtDHAtEuHCHAvKAvPA",
    "vTAwSAuINtGHAtHAuYAtItKAuHAuYAtLAtMAtNAtOuINtPAtSAuHAtTAuSAvHAtUtWAtZAuHAcCcMANYA DIGIT EIGHToFIVEpOURoNINEoONEoSEVENpIX",
    "oTHREEpWOoZEROiLETTER AqAqLEFpBApCAYNpDEELqHApEqEpFApGApHApIpJApKAAFqHApLAANpMIINpNUUNpOqOpQAAFpRApSAqHIINpTApUpWAWpXApYA",
    "bTTERdOMAN SIYAQ ALTERNATE NUMBER EIGHTzgFIVEzhOURzk HUNDREDzgNINEzgSEVENzhIXzj HUNDREDzgTENzj THOUSANDzhHREEzhWO",
    "zj THOUSANDoFRACTION ONE HALFzcSIXTHoMARRATANoNUMBER EIGHTzb HUNDREDzcTHOUSANDzbYzc THOUSANDvFIFTYzb THOUSANDxVEza HUNDRED",
    "zbTHOUSANDwORTYzb THOUSANDxURza HUNDREDzbTHOUSANDvNINEza HUNDREDzbTHOUSANDzaTYzc THOUSANDvONEy HUNDREDzaTHOUSANDvSEVEN",
    "zb HUNDREDzcTHOUSANDzbTYzd THOUSANDwIXy HUNDREDzaTHOUSANDyTYzb THOUSANDvTENy THOUSANDwHIRTYzc THOUSANDxREEzb HUNDRED",
    "zcTHOUSANDwWENTYzc THOUSANDxOy HUNDREDzaTHOUSANDbUNCE SIGNcTBOX TRAYdLINED BLACK STARjGREEK CROSSjLATIN CROSSjWHITE STAR",
    "bVERHEATED FACEeLAPhPING BLACK SQUARESmWHITE AND BLACK SQUARESsSQUARESfINEbWLbXbYSTERaPACKAGEcDdDING CHARACTERcGE",
    "e FACING UPfWITH CIRCLED TEXTlURLeReSdODAcHAWH HMONG CLAN SIGN FAJxHAMzaWJxKHAByOOyWMxLAUJyISxMUASxPHABxTHOJySABzaHEEJzaWB",
    "xVAJyWJxXYOOJxYAJyEEGoONSONANT AUxCAUyHAUxHAUyLAUyNAUxLAUxMAUxNAUyCHAUyKAUyLAUyTHAUzaSAUxPLHAUxQHAUxRAUxVAUxXAUxYAU",
    "nDIGIT EIGHTtFIVEuOURtNINEtONEtSEVENuIXtTHREEuWOtZEROnMARK CIM HOMwKESxHAVwSOxUAMwTAUMxUBnNUMBER HUNDRED MILLIONSzcS",
    "uMILLIONSuTEN BILLIONSyTHOUSANDSxSvRILLIONSnSIGN AVsCIM CHEEMxUAM TSHOOJwHAIS LUS NTOG NTOGwNRES TOSwPUB DAWBwTSOV ROGxXWV",
    "zb CHWVsHLItNUBsIB YAMsLOSsMEEJ SUABxTSEEBtUSsNQIGtTUJsTAUtHIRD-STAGE HLItXHEEJ CEEVsVOS FEEMwLUBwNRUAwSEEVwTHIAByOM",
    "xSHAB CEEBsXAUStIABtYEEM FAIByNTXIVyRHOyTOVuOOsZWJ THAJnVOWEL KAABwVvBvIBwVvUBwVvVvWBwVuEBvEBwVvVuIABwVvBvVuOBvOBwVvVuUAB",
    "wVvBvVuWBvVcLLASdM BRANCHfDOWN HANDfTREEfUP HANDeS UP TOGETHEReYRENE LEFT-POINTING FLEURONmTTER ALEPHsYINrBETHrDALETH",
    "rFINAL NUNrGIMELrHEtTHrKAPHrLAMEDHrMEMrNUNrPErQOPHrRESHrSADHEtMEKHsHINrTAWsETHrWAWrYODHrZAYINkNUMBER FIVEsOURrONErTENsHREE",
    "sWENTYtOkRIGHT-POINTING FLEURONcNCAKESdDA FACEcPERCLIPcRACHUTEeGRAPH SEPARATORjOSjUS MARKeLLEL TOjWITH HORIZONTAL STROKE",
    "oTILDE OPERATORdENTHESIZED DIGIT EIGHTuFIVEvOURuNINEuONEuSEVENvIXuTHREEvWOoHANGUL CHIEUCHzd AwIEUCzb AzcUvHIEUHzb AvIEUNG",
    "zb AvKHIEUKHzd AwIYEOKzc AvMIEUMzb AvNIEUNzb AvPHIEUPHzd AwIEUPzb AvRIEULzb AvSIOSza AvTHIEUTHzd AwIKEUTzc A",
    "oIDEOGRAPH ALLIANCEyCALLzaONGRATULATIONyEARTHzaIGHTzaNTERPRISEyFESTIVALzaINANCIALzbREzbVEzaOURyHAVEyLABORyMETALzaOONyNAME",
    "zaINEyONEyREACHzbPRESENTzbSOURCEzcTySELFzbVENzaIXzaOCIETYzaPECIALzaTOCKzbUDYzaUNzbPERVISEyTENzaHREEzaWOyWATERzaOOD",
    "oKOREAN CHARACTER O HUzhJEONoLATIN CAPITAL LETTER AzkBzkCzkDzkEzkFzkGzkHzkIzkJzkKzkLzkMzkNzkOzkPzkQzkRzkSzkTzkUzkVzkWzkX",
    "zkYzkZuSMALL LETTER AziBziCziDziEziFziGziHziIziJziKziLziMziNziOziPziQziRziSziTziUziVziWziXziYziZoNUMBER EIGHTEENwLEVEN",
    "vFIFTEENwOURTEENvNINETEENvSEVENTEENwIXTEENvTENwHIRTEENwWELVEyNTYdROTdT ALTERNATION MARKeIAL DIFFERENTIALiLINE BACKWARD",
    "nDOWNnFORWARDnUPhLY-RECYCLED PAPER SYMBOLeNERSHIP SIGNeY POPPERcSSED SYMBOLfNGER SHIPeIVE-PULL-DOWN-OUTPUT SYMBOL",
    "nUP-OUTPUT SYMBOLePORT CONTROLcU CIN HAU GLOTTAL STOPy FINALzaVARIANTmLETTER AtBAtCAuHAtDAtEtFAuINAL KzaLzaMzaNzbGzaPzaT",
    "zaWzaYtGAtHAtIuAtKAuHAtLAtMAtNAuGAtOtPAuHAtRAtSAtTAuHAtUuAtVAtZAnOW-FALLING TONEzd FINALzeLONGzi FINALmMID-LEVEL TONE",
    "zb FINALzcLONG FINALmRISING TONEx FINALyLONGzd FINALmSANDHI GLOTTAL STOPzg FINALtTONEx FINALyLONGzd FINALcW PRINTSbDFcI",
    "bEACE SYMBOLeHeOCKdNUTSdRcDESTRIANcN OVER STAMPED ENVELOPEdCILdGUINdSIVE FACEdTAGRAMcOPLE HUGGINGcR MILLE SIGNeSIGN",
    "eTEN THOUSAND SIGNdCENT SIGNdFORMING ARTSdMANENT PAPER SIGNdPENDICULARn WITH SdSEVERING FACEeON BOWING DEEPLYhCLIMBING",
    "hDOING CARTWHEELhFROWNINGhIN LOTUS POSITIONkSTEAMY ROOMhRAISING BOTH HANDS IN CELEBRATIONhWITH BALLnLOND HAIRmCROWN",
    "mFOLDED HANDSmHEADSCARFmPOUTING FACEgAL COMPUTERePECTIVEcSETA SIGNdO SIGNcTRI DISHbHAGS-PA DOUBLE HEAD MARKjLETTER A",
    "rLTERNATE YArSPIRATED FAqBAqCAsNDRABINDUrHAqDArDArZAqErEqFAqGArGAqHAqIqJAqKArHAqLAqMAqNArGArNArYAqOqPArHAqQAqRAqSArHA",
    "rMALL AqTArHArSAsHArTAsHAqUqVOICED HAvLESS SHAqWAqXAqYAqZArHAjMARK DOUBLE SHADoSHADjSINGLE HEAD MARKkUBJOINED LETTER RA",
    "zbWAzbYAlPERFIXED LETTER RAdISTOS DISC SIGN ARROWtBEEwHIVEuOOMERANGvWuULLS LEGtCAPTIVEvRPENTRY PLANEvTuHILDuLUBuOLUMNvMB",
    "xINING OBLIQUE STROKEtDOLIUMvVEtEAGLEtFLUTEtGAUNTLETuRATERtHELMETuIDEuORNtLIDvLYtMANACLESvTTOCKtOX BACKtPAPYRUSuEDESTRIAN",
    "uLANE TREEvUMED HEADtRAMuOSETTEtSAWuHIELDwPuLINGuMALL AXEuTRAINERtTATTOOED HEADuIARAuUNNYtVINEtWAVY BANDuOMAN",
    "cILIPPINE DOUBLE PUNCTUATIONlSINGLE PUNCTUATIONcOENICIAN LETTER AINtLFsBETsDELTsGAMLsHEuTsKAFsLAMDsMEMsNUNsPEsQOFsROSH",
    "sSADEtEMKtHINsTAUtETsWAUsYODsZAIlNUMBER ONEv HUNDREDsTENtHREEtWENTYuOlWORD SEPARATORdLUSbICKeUP TRUCKcEcGd FACEeNOSE",
    "cLCROW SIGNdE OF POOdLcNATAdCHED FINGERSfING HANDdE DECORATIONeAPPLEdWHEEL STARcSCESdTOLcTCHFORKj WITH TEE TOPbLACARD",
    "eE OF INTEREST SIGNjWORSHIPdNCK CONSTANTp OVER TWO PIdYGROUND SLIDEeING CARD ACE OF CLUBSuDIAMONDSuHEARTSuSPADESnBACK",
    "oLACK JOKERnEIGHT OF CLUBSwDIAMONDSwHEARTSwSPADESnFIVE OF CLUBSvDIAMONDSvHEARTSvSPADESoOOLpUR OF CLUBSvDIAMONDSvHEARTS",
    "vSPADESnJACK OF CLUBSvDIAMONDSvHEARTSvSPADESnKING OF CLUBSvDIAMONDSvHEARTSvSPADESoNIGHT OF CLUBSxDIAMONDSxHEARTSxSPADES",
    "nNINE OF CLUBSvDIAMONDSvHEARTSvSPADESnQUEEN OF CLUBSwDIAMONDSwHEARTSwSPADESnRED JOKERnSEVEN OF CLUBSwDIAMONDSwHEARTS",
    "wSPADESoIX OF CLUBSuDIAMONDSuHEARTSuSPADESnTEN OF CLUBSuDIAMONDSuHEARTSuSPADESoHREE OF CLUBSwDIAMONDSwHEARTSwSPADESoRUMP-1",
    "u0u1u2u3u4u5u6u7u8u9t2u0u1t3t4t5t6t7t8t9oWO OF CLUBSuDIAMONDSuHEARTSuSPADESnWHITE JOKERcDcUdNGERdS SIGNj ABOVE EQUALS SIGN",
    "kIN LEFT HALF CIRCLEnRIGHT HALF CIRCLEnTRIANGLEkWITH BLACK TRIANGLEpCIRCUMFLEX ACCENT ABOVEpDOT BELOWpSMALL CIRCLE ABOVE",
    "qUBSCRIPT TWOpTILDE ABOVEvBELOWe-MINUS SIGNdTOf FORM FIVEmOURlTHREEmWObMbOCKET CALCULATORcLICE CARkS REVOLVING LIGHT",
    "hOFFICERcODLEcP DIRECTIONAL FORMATTINGqISOLATEdCORNcRTABLE STEREOcSEIDONdITION INDICATORdTAL HORNhMARKl FACEeBOXcT OF FOOD",
    "dABLE WATER SYMBOLeTOdTED PLANTcUCHdLTRY LEGdND SIGNdRING LIQUIDdTING CAT FACEiFACEcWER ON SYMBOLi-OFF SYMBOLgSLEEP SYMBOL",
    "hYMBOLbRAYER BEADScECEDESi ABOVE ALMOST EQUAL TOpEQUALS SIGNpNOT ALMOST EQUAL TOtEQUAL TOpSINGLE-LINE EQUALS SIGN",
    "zcNOT EQUAL TOjBUT NOT EQUIVALENT TOjOR EQUAL TOpIVALENT TOjUNDER RELATIONdGNANT MANjPERSONjWOMANdSCRIPTION TAKE",
    "eENTATION FORM FOR VERTICAL COLONziMMAzgEM DASHzhN DASHzhXCLAMATION MARKzgHORIZONTAL ELLIPSISzgIDEOGRAPHIC COMMA",
    "zsFULL STOPzgLEFT ANGLE BRACKETzlBLACK LENTICULAR BRACKETzlCORNER BRACKETzmURLY BRACKETzlDOUBLE ANGLE BRACKETzlPARENTHESIS",
    "zlSQUARE BRACKETzlTORTOISE SHELL BRACKETzlWHITE CORNER BRACKETzrLENTICULAR BRACKETzhOW LINEzgQUESTION MARK",
    "zgRIGHT ANGLE BRACKETzmBLACK LENTICULAR BRACKETzmCORNER BRACKETznURLY BRACKETzmDOUBLE ANGLE BRACKETzmPARENTHESIS",
    "zmSQUARE BRACKETzmTORTOISE SHELL BRACKETzmWHITE CORNER BRACKETzsLENTICULAR BRACKETzzhKCETzgSEMICOLONzgTWO DOT LEADER",
    "zgWAVY LOW LINEdTZELdVIOUS PAGEcIMEdNCEgSSeT SCREEN SYMBOLfERh ICONdVACY MESSAGEfTE USE ONEmTWOl-1m2cOBING CANE",
    "dHIBITED SIGNdJECTIVEdPERTY LINEeORTIONkAL TOdSERPINAbSALTER PAHLAVI FOUR DOTS WITH CROSSzgDOTqLETTER ALEPHxBETHxDALETH",
    "xGIMELxHEzaTHxKAPHxLAMEDHxMEM-QOPHxNUNxPExSADHEzaMEKHyHINxTAWxWAW-AYIN-RESHxYODHxZAYINqNUMBER FOURxONEzb HUNDREDxTENyHREE",
    "yWENTYzaOqSECTION MARKqTURNED SECTION MARKbU1c2cBLIC ADDRESS LOUDSPEAKERcNCTUATION SPACEgS ELEVATUS MARKcRPLE HEARTdSE",
    "cSHPINcT LITTER IN ITS PLACE SYMBOLaQUADRANT LOWER LEFTpRIGHTjUPPER LEFTt AND LOWER LEFT AND LOWER RIGHTzfRIGHT",
    "yUPPER RIGHT AND LOWER LEFTzvRIGHTpRIGHTu AND LOWER LEFTzk AND LOWER RIGHTfUPLE INTEGRAL OPERATORkPRIMEdRTER NOTE"]

/-- The fourth quarter of the list. -/
def fourthQuarter : List String := [
    "dTERNION INTEGRAL OPERATORcESTION EXCLAMATION MARKjMARKiED EQUAL TOcINCUNXcOTATION MARKaRABBITg FACEcCCOONdING CAR",
    "hMOTORCYCLEcDICAL SYMBOL BOTTOMeOf BUTTONfACTIVE SIGNcILWAY CARiTRACKdNeBOWdSED BACK OF HANDhCOMMAhDOT",
    "kTED INTERPOLATION MARKERhFISThHANDl WITH FINGERS SPLAYEDrPART BETWEEN MIDDLE AND RING FINGERShINTERPOLATION MARKER",
    "hMC SIGNiD SIGNiR SIGNhSQUAREcMcTdIOcZORbECEIPTdORD SEPARATORdREATIONAL VEHICLEdYCLED PAPER SYMBOL",
    "gING SYMBOL FOR GENERIC MATERIALSvTYPE-1 PLASTICSzb2 PLASTICSzb3 PLASTICSzb4 PLASTICSzb5 PLASTICSzb6 PLASTICSzb7 PLASTICS",
    "cD APPLEeGIFT ENVELOPEcFERENCE MARKcGIONAL INDICATOR SYMBOL LETTER AziBziCziDziEziFziGziHziIziJziKziLziMziNziOziPziQziRziS",
    "ziTziUziVziWziXziYziZeSTERED SIGNcJANG CONSONANT SIGN HwNxGwRhLETTER AoBAoCAoDAoGAoHAoJAoKAoLAoMApBAoNApDApGAqGApYAqJAoPA",
    "oRAoSAoTAoWAoYAhSECTION MARKhVIRAMAiOWEL SIGN AItUsEtAtUsIsOsUcLIEVED FACEcMINDER RIBBONcPLACEMENT CHARACTERcSPONSE",
    "dTRICTED LEFT ENTRY-1w2fOOMcTURN LEFThRIGHThSYMBOLcVERSE CHECKER BOARDiINDEXiLIGHT FOUR POINTED PINWHEEL STARkNE FEED",
    "iSOLIDUSp OPERATORqPRECEDING SUBSETqWITH HORIZONTAL STROKEiTILDE OPERATOR ABOVE LEFTWARDS ARROWzeRIGHTWARDS ARROWhD ANGLE",
    "o WITH UNDERBARjCOMMAjDOUBLE PRIMEv QUOTATION MARKqSTROKE NOT SIGNjEMPTY SETjFORKED PARAGRAPHOS",
    "jHAND WITH MIDDLE FINGER EXTENDEDjNOT SIGNjPILCROW SIGNkRIMEjQUESTION MARKjRAISED HAND WITH FINGERS SPLAYEDkIGHT ANGLE",
    "kOTATED FLORAL HEART BULLETjSANS-SERIF CAPITAL LkEMICOLONjTHUMBS DOWN SIGNqUP SIGNkILDEo EQUALSkRIPLE PRIMEjVICTORY HAND",
    "dOLVING HEARTSbHINOCEROSbIcAL SIGNcBBONg ARROW DOWN LEFTsRIGHTnLEFT DOWNsUPnRIGHT DOWNtUPnUP LEFTqRIGHTcCE BALLfCRACKER",
    "cFLEcGHT AND LOWER ONE EIGHTH BLOCKkUPPER ONE EIGHTH BLOCKiGER BUBBLEjLEl BRACKETt WITH DOTmDOTTED SUBSTITUTION MARKER",
    "mSUBSTITUTION MARKERmVARIANT WITH SQUAREmWITH ARCrDOWNWARDS ZIGZAG ARROWhRC GREATER-THAN BRACKETiROW WITH CIRCLED PLUS",
    "rSMALL CIRCLEgBLACK LENTICULAR BRACKETmTORTOISE SHELL BRACKETgCEILINGhORNER BRACKEThURLY BRACKETt LOWER HOOKuMIDDLE PIECE",
    "uUPPER HOOKgDOTTED SUBSTITUTION BRACKETiUBLE ANGLE BRACKEToRROW WITH ROUNDED HEADnPARENTHESISnQUOTATION MARKnWIGGLY FENCE",
    "gFISH TAILiVE EIGHTHS BLOCKhLOORgHALF BLACK CIRCLErSTARnOCKlFOLDERlMEDIUM SHADElRUNNING MANiND TELEPHONE RECEIVER",
    "gLOW PARAPHRASE BRACKETgNORMAL FACTOR SEMIDIRECT PRODUCTgONE EIGHTH BLOCKkQUARTER BLOCKhPEN SQUARED DOThUTER JOIN",
    "gPARENTHESISr EXTENSIONsLOWER HOOKsUPPER HOOKgRAISED OMISSION BRACKETgS-SHAPED BAG DELIMITERhEMIDIRECT PRODUCT",
    "iVEN EIGHTHS BLOCKhIDEWAYS U BRACKETiNGLE QUOTATION MARKhPEAKERn WITH ONE SOUND WAVEtTHREE SOUND WAVESjECH BUBBLE",
    "hQUARE BRACKETu EXTENSIONvLOWER CORNERvUPPER CORNERvWITH DOUBLE STROKEzbQUILLzbSTROKEzbTICK IN BOTTOM CORNERzjTOP CORNER",
    "zbUNDERBARhUBSTITUTION BRACKETgTACKhHIRD WHITE RIGHT POINTING INDEXiOUGHT BUBBLEiREE EIGHTHS BLOCKmQUARTERS BLOCK",
    "hORTOISE SHELL BRACKEThRANSPOSITION BRACKETiIANGLEo ABOVE LEFT TRIANGLEmULAR ONE QUARTER BLOCKgVERTICAL BAR WITH QUILL",
    "qOX LINEgWHITE CORNER BRACKETnURLY BRACKETmLENTICULAR BRACKETmPARENTHESISmSQUARE BRACKETmTORTOISE SHELL BRACKET",
    "hIGGLY FENCEf-FACING ARMENIAN ETERNITY SIGNnFISTnSVASTI SIGNy WITH DOTSgHANDED INTERLACED PENTAGRAMgPOINTING ANGLE BRACKET",
    "pCURVED ANGLE BRACKETpDOUBLE ANGLE QUOTATION MARKpMAGNIFYING GLASSgSHADED WHITE RIGHTWARDS ARROWhIDE ARC CLOCKWISE ARROW",
    "gTO-LEFT EMBEDDINGoISOLATEoMARKoOVERRIDEfHAND INTERIOR PRODUCTfWARDS ARROWq ABOVE ALMOST EQUAL TOxREVERSE ALMOST EQUAL TO",
    "zgTILDE OPERATORxSHORT LEFTWARDS ARROWxTILDE OPERATORsND UPPER AND LOWER ONE EIGHTH BLOCKrFROM BARza TO BLACK DIAMOND",
    "rOVER LEFTWARDS ARROWrTHROUGH GREATER-THANzaSUPERSETzaXsO BARvLACK DIAMONDrWITH CORNER DOWNWARDSwDOTTED STEM",
    "yUBLE VERTICAL STROKEwEQUILATERAL ARROWHEADwHOOKwLARGE TRIANGLE ARROWHEADxOOPwMEDIUM TRIANGLE ARROWHEADwNOTCHED TAIL",
    "wPLUS BELOWwSMALL EQUILATERAL ARROWHEADzdTRIANGLE ARROWHEADxTROKEwTAILzb WITH DOUBLE VERTICAL STROKEzhVERTICAL STROKE",
    "xIP DOWNWARDSzbUPWARDSwVERTICAL STROKEq-TAILlBACK-TILTED SHADOWED WHITE ARROWmLACK ARROWrCIRCLED WHITE ARROW",
    "mOTTOM SHADED WHITE ARROWlCOMPRESSED ARROWlDASHED ARROWmOUBLE ARROWx FROM BARyWITH STROKEzeVERTICAL STROKEx-TAIL",
    "sDASH ARROWlFINGER-POST ARROWmRONT-TILTED SHADOWED WHITE ARROWlHANDnRPOON OVER LEFTWARDS HARPOON",
    "tWITH BARB DOWN ABOVE LEFTWARDS HARPOON WITH BARB DOWNzjBELOW LONG DASHzjFROM BARzjTO BARziWARDS",
    "zeUP ABOVE LEFTWARDS HARPOON WITH BARB UPzoONG DASHznRIGHTWARDS HARPOON WITH BARB DOWNzhFROM BARzhTO BARzgWARDSmEAVY ARROW",
    "rCOMPRESSED ARROWlLEFT-SHADED WHITE ARROWlOPEN-HEADED ARROWlPAIRED ARROWSlQUADRUPLE ARROWlRIGHT-SHADED WHITE ARROWmOCKET",
    "lSANS-SERIF ARROWmQUARED ARROWoIGGLE ARROWlTOP SHADED WHITE ARROWmRIANGLE ARROWHEADt-HEADED ARROW",
    "zh OVER LEFTWARDS TRIANGLE-HEADED ARROWziTO BARziWITH BOLD SHAFTznDOUBLE HORIZONTAL STROKEzuVERTICAL STROKEznHEAVY SHAFT",
    "znLONG TIP DOWNWARDSzwUPWARDSznMEDIUM SHAFTznNARROW SHAFTznVERY HEAVY SHAFTzcDASHED ARROWzcPAIRED ARROWSoPLE ARROW",
    "sDASH ARROWmWO HEADED ARROWo-HEADED ARROW FROM BARzdWITH DOUBLE VERTICAL STROKEziTAILzm WITH DOUBLE VERTICAL STROKE",
    "zsVERTICAL STROKEzjRIANGLE ARROWHEADSziVERTICAL STROKEwTRIPLE DASH ARROWlWAVE ARROWmHITE ARROWw FROM WALL",
    "xWITHIN TRIANGLE ARROWHEADcNGe ABOVEfBUOYfEQUAL TOfIN EQUAL TOfOPERATORfPOINTeED PLANETeING BELL",
    "cSING DIAGONAL CROSSING FALLING DIAGONALzaSOUTH EAST ARROWbLEcIcMcObOASTED SWEET POTATOcBOT FACEcCKeETcLL OF PAPER",
    "eED-UP NEWSPAPERfR COASTERhSKATEeING ON THE FLOOR LAUGHINGcMAN AS SIGNgCENTURIAL SIGNgDENARIUS SIGNhIMIDIA SEXTULA SIGN",
    "hUPONDIUS SIGNgNUMERAL EIGHTpLEVENoFIFTYt EARLY FORMuTHOUSANDqVEs HUNDREDtTHOUSANDpOURoNINEoONEr HUNDREDza THOUSAND",
    "sTHOUSANDzb C DoREVERSED ONE HUNDREDoSEVENpIXr LATE FORMoTENr THOUSANDpHREEpWELVEqOgQUINARIUS SIGNgSEMUNCIA SIGN",
    "iSTERTIUS SIGNiXTANS SIGNkULA SIGNhILIQUA SIGNgUNCIA SIGNcOSTERcSEeTTEcTATED CAPITAL QiFLORAL HEART BULLET",
    "iHEAVY BLACK HEART BULLETiLIGHT FOUR POINTED BLACK CUSPiWHITE FOUR POINTED CUSPcUND PUSHPINgTARGETfED SYMBOL FOR CAItFUtLU",
    "tSHOUvUANGXItXIcWBOATbSbUBLE SIGNcGBY FOOTBALLcLE-DELAYEDcMI DIGIT EIGHTlFIVEmOURlNINElONElSEVENmIXlTHREEmWO",
    "fFRACTION ONE HALFsQUARTERsTHIRDoTWO THIRDSfNUMBER EIGHT HUNDREDrYmFIFTYoVE HUNDREDnORTYoUR HUNDREDmNINE HUNDREDqTY",
    "mONE HUNDREDmSEVEN HUNDREDrTYnIX HUNDREDpTYmTENnHIRTYoREE HUNDREDnWENTYoO HUNDREDcNIC ARLAUG SYMBOLgBELGTHOR SYMBOL",
    "gCROSS PUNCTUATIONgLETTER AC AoESCoLGIZ EOLHXoNSUZ AnBERKANAN BEORC BJARKAN BnCoALCoEALCpNoWEORTHnDoAGAZ DAEG DoOTTED-LuN",
    "uPnEoARoHWAZ EH EoNGoTHnFEHU FEOH FE FoRANKS CASKET ACzdESCzcEHzcISzcOSnGoARoEBO GYFU GpRnHAEGL HpGLAZ HnICELANDIC-YRoNG",
    "qWAZoORoSAZ IS ISS IoWAZ EOHnJERAN JnKoAUN KrAnLAUKAZ LAGU LOGR LoONG-BRANCH-AR AEzaHAGALL HzaMADR MzaOSS OzaYR",
    "nMANNAZ MAN MnNAUDIZ NYD NAUD NnOoEoNoOoPEN-PoS OoTHALAN ETHEL OnPERTHO PEORTH PnQnRAIDO RAD REID RnSHpORT-TWIG-AR A",
    "yBJARKAN ByHAGALL HyMADR MyNAUD NyOSS OySOL SyTYR TyYRoIGEL LONG-BRANCH-SOL SoOWILO SoTANnTHURISAZ THURS THORN",
    "oIWAZ TIR TYR TnURUZ UR UnVnWoUNJO WYNN WnXnYoRnZgMULTIPLE PUNCTUATIONgSINGLE PUNCTUATIONgTVIMADUR SYMBOLdNER",
    "eING SHIRT WITH SASHcPEE SIGNcSSIAN ASTROLOGICAL SYMBOL BINOVILEzdNOVILEzdQUINTILEzdSENTAGONzdTREDECILEzdVIGINTILE",
    "aS IN TRIANGLEbAFETY PINhVESTcGITTARIUScILBOATcKE BOTTLE AND CUPcLT SHAKEReIREdUTING FACEcMARITAN ABBREVIATION MARK",
    "kLETTER ALAFrBAAsITrDALATrFIrGAMANrINsTsYrKAAFrLABATrMIMrNUNrQUFrRISHrSHANsINGAATrTAAFsITsSAADIYrYUTrZENkMARK DAGESH",
    "pEPENTHETIC YUTpINr-ALAFpNEQUDAApOCCLUSIONlODIFIER LETTER EPENTHETIC YUTzbIzbSHORT AkPUNCTUATION AFSAAQxNGEDyNAAUxRKAANU",
    "xTMAAUwBAUwMELODIC QITSAwNEQUDAAwQITSAwSHIYYAALAAxOF MASHFAATwTURUwZAEFxIQAAkVOWEL SIGN AwAvEvIvLONG AzcAzbEzbIzbUvO",
    "wVERLONG AzgAvSHORT AwUKUNvUcNDWICHdS-SERIF HEAVY DOUBLE COMMA QUOTATION MARK ORNAMENT",
    "yTURNED COMMA QUOTATION MARK ORNAMENTrLOW DOUBLE COMMA QUOTATION MARK ORNAMENTlINTERROBANG ORNAMENTcRIcTELLITEj ANTENNA",
    "dURNcURASHTRA CONSONANT SIGN HAARUlDANDAmIGIT EIGHTrFIVEsOURrNINErONErSEVENsIXrTHREEsWOrZEROmOUBLE DANDAlLETTER AtAtItUsBA",
    "tHAsCAtHAsDAtDAuHAtHAsEtEsGAtHAsHAsItIsJAtHAsKAtHAsLAtLAsMAsNAtGAtNAtYAsOtOsPAtHAsRAsSAtHAtSAsTAtHAtTAuHAsUtUsVAtOCALIC L",
    "zcLzbRzcRsYAlSIGN ANUSVARAqCANDRABINDUqVIRAMAsSARGAlVOWEL SIGN AAxIxUwExEwIxIwOxOwUxUwVOCALIC LzgLzfRzgReOPODcXOPHONE",
    "bCALESdRFcHOOLg SATCHELcIcOOTERdRPIONgUScREENeWDRIVERdIPT CAPITAL BpEpFpHpIpLpMpPpRhLIGATURE ET ORNAMENThSMALL EnGnLnOdOLL",
    "dUPLEbEALdTcCOND PLACE MEDALdTION SIGNeORcDNAcE-NO-EVIL MONKEYdDLINGcGMENThED DIGIT EIGHTqFIVErOURqNINEqONEqSEVENrIXqTHREE",
    "rWOqZEROcLFIEcMICOLONeDIRECT PRODUCT WITH BOTTOM CLOSEDeSEXTILEcPARATED SYMBOLcRIOUS FACE WITH SYMBOLS COVERING MOUTH",
    "dVICE MARKcSAME DOTdQUIQUADRATEcT MINUSeTRANSMIT STATEcWING NEEDLEcXTILEbGCbHADOWED WHITE CIRCLEpLATIN CROSSpSTAR",
    "dLLOW PAN OF FOODdMROCKdRADA ABBREVIATION SIGNiCONTINUATION SIGNiDANDAjIGIT EIGHToFIVEpOURoNINEoONEoSEVENpIXoTHREEpWOoZERO",
    "jOUBLE DANDAiEKAMjXTRA SHORT VOWEL MARKiHEADSTROKEiLETTER AqAqIqUpBAqHApCAqHApDAqDArHAqHApEpGAqHApHApIqIpJAqHApKAqHApLAqLA",
    "pMApNAqGAqNAqYApOpPAqHApRApSAqHAqSApTAqHAqTArHApUqUpVAqOCALIC LyLxRyRpYAiOMiSANDHI MARKjECTION MARK-1v2kPARATOR",
    "jIGN ANUSVARAoVAGRAHAnCANDRABINDUnINVERTED CANDRABINDUnJIHVAMULIYAnNUKTAnSIDDHAMnUPADHMANIYAnVIRAMApSARGAjUTRA MARK",
    "iVOWEL MODIFIER MARKoSIGN AAuIuUtEtIuItOtPRISHTHAMATRA EtUuUtVOCALIC LzdLzcRzdReKdVED ICEeIAN LETTER ADOqGEqHqIRqRErRAYqSH",
    "qWEpBIBpCHURCHpDEADpEARrTqGGqRRpFEEpGAGpHA-HAqUNGpIANqCEqFpJUDGEpKICKpLOLLpMEASUREqIMEpNUNpOAKqILqNqOZEqRqUTpPEEPpROARpSO",
    "qUREpTHEYrIGHqOTpUPpVOWpWOErOLpYEArWpZOOcEEPcIELDdFT INgOUTdNTO SHRINEdPcOCKED FACE WITH EXPLODING HEADdOTING STAR",
    "dPPING BAGSjTROLLEYdRT BACKSLANTED SOUTH ARROWhENT ARROW POINTING DOWNWARDS THEN NORTH EASTgDOWN TACKp WITH OVERBAR",
    "gLEFT TACKgRIGHTWARDS ARROW ABOVE LEFTWARDS ARROWgSLANTED NORTH ARROWgUP TACKn ABOVE SHORT DOWN TACKoWITH UNDERBARfCAKE",
    "fHAND FORMAT CONTINUING OVERLAPrDOWN STEPrLETTER OVERLAPrUP STEPfSdULDERED OPEN BOXdWERcRIMPdUGcUFFLE PRODUCTcYbI",
    "cDDHAM DANDAjOUBLE DANDAiEND OF TEXT MARKiLETTER AqAqIqLTERNATE UqUpBAqHApCAqHApDAqDArHAqHApEpGAqHApHApIqIpJAqHApKAqHApLA",
    "pMApNAqGAqNAqYApOpPAqHApRApSAqHAqSApTAqHArREE-CIRCLE ALTERNATE IqTArHAqWO-CIRCLE ALTERNATE IzmIpUqUpVAqOCALIC LyLxRyRpYA",
    "iREPETITION MARK-1y2y3iSECTION MARK DOUBLE RINGzh WITH RAYSvWITH CIRCLES AND FOUR ENCLOSURESznRAYSznTWO ENCLOSURES",
    "zbDOUBLE CRESCENTSzbQUADRUPLE CRESCENTSzbRAYS AND DOTTED CRESCENTSzrDOUBLE CRESCENTSzrTRIPLE CRESCENTSzbSEPTUPLE CRESCENTS",
    "zbTRIDENT AND DOTTED CRESCENTSznU-SHAPED ORNAMENTSzePLE CRESCENTSkPARATOR BARsDOTjIGN ANUSVARAnCANDRABINDUnNUKTAnSIDDHAM",
    "nVIRAMApSARGAiVOWEL SIGN AAuIuLTERNATE UzfUuUtEtIuItOtUuUtVOCALIC RzdRdEWAYS BLACK DOWN POINTING INDEXpLEFT POINTING INDEX",
    "pRIGHT POINTING INDEXpUP POINTING INDEXjWHITE DOWN POINTING INDEXpLEFT POINTING INDEXpRIGHT POINTING INDEX",
    "pUP POINTING INDEXcGN OF THE HORNSeWRITING AIR BLOW SMALL ROTATIONSuING OUTqSUCK SMALL ROTATIONSuING INmBREATH EXHALE",
    "tINHALEoUSH BETWEENsMULTIPLEsSINGLEmCHEEKS NEUTRALtPUFFEDtSUCKEDnOLONoMMAmDREAMY EYEBROWS DOWN NEUTRALzdNEUTRAL DOWNzlUP",
    "zdUP NEUTRALnYNAMIC ARROWHEAD LARGEzfSMALLuEVERY OTHER TIMEuFASTuGRADUALuRELAXEDuSIMULTANEOUSzh ALTERNATINGvLOWuTENSEmEARS",
    "nXCITEMENTnYE BLINK MULTIPLEwSINGLEqWINKpBROWS STRAIGHT DOWNzfNEUTRALzfUPpGAZE-FLOORPLANE CURVEDzgSTRAIGHTzo ALTERNATING",
    "zpDOUBLEuWALLPLANE CIRCLINGzgURVEDzfSTRAIGHTzn ALTERNATINGzoDOUBLEpLASHES DOWNwFLUTTERINGwUPpS CLOSEDrHALF CLOSEDwOPEN",
    "rOPENrSQUEEZEDrWIDE OPENvNING MOVEMENTmFACE DIRECTION POSITION NOSE FORWARD TILTINGzqUP OR DOWNzzb TILTINGnILL MODIFIER-2",
    "zb3zb4zb5zb6oNGERnLICK LARGE MULTIPLEySINGLEsSEQUENTIALtMALL MULTIPLEySINGLEoOORPLANE SHOULDER HIP MOVEnOREHEAD CONTACT",
    "vNEUTRALvWRINKLEDnULL STOPmGRASP BETWEENsMULTIPLEsSINGLEmHAIRoND-ANGLEw INDEXzd MIDDLE LITTLEzlRINGzeRING LITTLEzp OUT",
    "zeTHUMBzj INzkOUTxLITTLE INDEXzk THUMB INDEX THUMBzzd OUTzfUPxMIDDLE RING LITTLEzq INzrOUT",
    "xRING DOWN MIDDLE THUMB INDEX CROSSzdLITTLErCIRCLEx INDEXze BENTzfHINGEzfMIDDLEzl CROSS LITTLEzrEDzmLITTLEzmRINGzmTHUMB",
    "zfRING LITTLEyLITTLE INDEXzgUPyMIDDLE RING LITTLEzr BENTzgUPyRING LITTLEsLAWv FOUR FINGERS CONJOINED",
    "wINDEX THUMB CURVE THUMB INSIDEwMIDDLE RING LITTLE CONJOINEDzza SIDEwNO THUMBwTHUMB FORWARDzdSIDEsUPu FIVE FINGERS SPREAD",
    "zp OPENvINDEXzb RING LITTLEzcTHUMBzh OPENvMIDDLE RING LITTLEvNO THUMBvOPENza NO THUMBzbTHUMB FORWARDzhSIDEvTHUMB FORWARD",
    "zcSIDEtRLICUEza INDEX RING LITTLE ONzbMIDDLE RING LITTLE ONzbOPENrFISTv FOUR FINGERS CONJOINED BENTwHEELwINDEXzc BENT",
    "zh OVER MIDDLEzdCUPPEDzdHINGEDzj LOWzkMIDDLE UPzt THUMB SIDEzdMIDDLEzj BENTzo THUMB STRAIGHTzkCONJOINEDzt CUPPED",
    "zzb THUMB FORWARDzuHINGEDzzb THUMB SIDEzuINDEX BENTzuMIDDLE BENTzuTHUMB FORWARDzzbSIDEzzf BENTzzgCONJOINEDzlROSS LITTLE",
    "zpEDzr THUMB SIDEzkHINGEDzq SPREAD THUMB SIDEzkLITTLEzkRAISED KNUCKLESzlINGzo BENTzpCONJOINEDzkSTRAIGHT THUMB BENTzkTHUMB",
    "zp ANGLEDzw OUTzqBENTzqCIRCLEDzrONJOINED HINGEDzrUPPEDzqHINGEDzrOOKEDzkUP SPREAD THUMB FORWARDzdRAISED KNUCKLEzeING LITTLE",
    "zdTHUMB ANGLED IN MIDDLE UPzqOUT MIDDLE UPzjCIRCLEzpD MIDDLE UPzkUPPED MIDDLE UPzlRLICUEzmVE THUMB INSIDEzvUNDER",
    "zjFORWARD INDEX BENTzxSTRAIGHTzjHOOKznED MIDDLE HINGEDzxUPzjSIDEzn BOTH BENTzoINDEX BENTzuHINGEzoTHUMB BENTzuCONJOINED",
    "zuDIAGONALzdUP MIDDLE HINGEDzt THUMB CONJOINEDzzbSIDEwLITTLE BENTzeDOWNzi OTHERS CIRCLEDzjRIPPLE CURVEDzqSTRAIGHTzeINDEX",
    "zj THUMBzeRAISED KNUCKLEzeTHUMBzfOUCHES THUMBzeUPwMIDDLE BENT OVER INDEXzeDOWNzeLITTLEzeRAISED KNUCKLEzfING LITTLE",
    "zeTHUMB ANGLED INDEX UPzrOUT INDEX CROSSEDzzcUPzkCIRCLED INDEX HINGEDzyUPzlUPPED INDEX UPzkHOOKED INDEX UPzkLITTLEzeUP",
    "zg THUMB SIDEwRING DOWNzcINDEXzcLITTLEzcMIDDLEzi CONJOINEDzjRAISED KNUCKLESzcRAISED KNUCKLEzcTHUMBzcUPwTHUMB",
    "zc BETWEEN INDEX MIDDLEzx STRAIGHTzlMIDDLE RINGzlRING LITTLEzdFORWARDzdHEELzdOVER FOUR RAISED KNUCKLESziTWO FINGERS",
    "zdSIDE BENTziCONJOINEDziDIAGONALzdUNDER FOUR FINGERSzjINDEX BENTzjLITTLE UPzjTHREE FINGERSzkWO FINGERSsLAT",
    "v BETWEEN PALM FACINGSwFIVE FINGERS SPREADzq BENTzrFOUR BENTzrHINGEDzx NO THUMBzyTHUMB SIDEzrTHUMB FORWARDxOUR FINGERS",
    "zj BENTzkCONJOINEDzt SPLITzkHINGEDwHEELzb FIVE FINGERS SPREADzv BENTzwFOUR BENTzcTHUMB SIDEwSPLIT CENTREzj THUMB SIDE",
    "zu BENTzdINDEX THUMB SIDEzdLITTLEwTHUMB BENTzdFORWARDzdSIDErHINGEw FIVE FINGERS SPREAD OPENyOUR FINGERS CONJOINEDxINDEX",
    "zd HINGEDzeMIDDLE LITTLEzlRINGzp CONJOINEDzeRING LITTLEzeTHUMBzj LARGEzkOPENzkSIDEzlMALLxLITTLEze INDEXzk THUMBzfTHUMB",
    "xMIDDLEze RING LITTLExNO THUMBxOPENzc NO THUMBzdTHUMB FORWARDzjSIDExRINGzc DOWN INDEX THUMB HOOK MIDDLExSMALL",
    "xTHUMB BETWEEN MIDDLE RINGzeSIDEzi TOUCHING INDEXsOOKv CURLICUEwINDEX RING LITTLE INzpOUTzpUNDER",
    "wMIDDLE RING LITTLE CONJOINEDzza INzzbOUTzeTHUMBwRING THUMBrOVALv FIVE FINGERS SPREADwINDEXwLITTLE UPwNO THUMBwRING LITTLE",
    "wTHUMB FORWARDzdSIDEnEADq MOVEMENT CIRCLEza-FLOORPLANE CURVEzmSTRAIGHTzbWALLPLANE CURVEzlSTRAIGHTzlTILTrRIM",
    "mLIMB COMBINATIONrLENGTH-1y2y3y4y5y6y7oP LOWER OVER UPPERqUPPER OVER LOWERpS PRESSED TOGETHERnOCATION DEPTHvHEAD NECKxIGHT",
    "vLIMBS DIGITSvTORSOvWIDTHu-FLOORPLANE SPACEvWALLPLANE SPACEmMOUTH CLOSED CONTACTzaFORWARDzaNEUTRALtORNERSsFROWNx OPEN",
    "yWRINKLEDsKISSw FORWARDxWRINKLEDsOPEN CIRCLExFORWARDxOVALzc WRINKLEDzdYAWNxRECTANGLEzh WRINKLEDziYAWNxWRINKLEDsSMILEx OPEN",
    "yWRINKLEDsTENSEx FORWARDySUCKEDsWRINKLES DOUBLEzcSINGLEoVEMENT-DIAGONAL AWAY LARGEzpSTzkMEDIUMzkSMALLzfBETWEEN AWAY LARGE",
    "zxSTzsMEDIUMzsSMALLznTOWARDS LARGEzzbSTzvMEDIUMzvSMALLzfTOWARDS LARGEzsSTznMEDIUMznSMALL",
    "vFLOORPLANE ARM CIRCLE HITTING WALL LARGE DOUBLEzzmSINGLEzzgMEDIUM DOUBLEzznSINGLEzzgSMALL DOUBLEzzmSINGLEzhBENDziOX LARGE",
    "zlMEDIUMzlSMALLzhCHECKziORNER LARGEzoMEDIUMzoSMALLziROSSziURVE COMBINEDznHITTING CEILING LARGEzzeSMALLzvFLOOR LARGE",
    "zzcSMALLznLARGEzsSTznMEDIUMznSMALLzhDOUBLE ALTERNATINGzza WRIST FLEXzoSTRAIGHTzoWRIST FLEX",
    "zhFINGER CIRCLES HITTING WALL DOUBLEzzkSINGLEzpONTACTzhHUMP HITTING CEILING LARGE DOUBLEzzjTRIPLEzzdSMALL DOUBLEzzjTRIPLE",
    "zuFLOOR LARGE DOUBLEzzbSMALL DOUBLEzzbTRIPLE LARGE TRIPLEzziSMALL TRIPLEzmSMALLzhJAWzhLOOP HITTING CEILING LARGE DOUBLE",
    "zzjSINGLEzzdSMALL DOUBLEzzjSINGLEzuFLOOR LARGE DOUBLEzzhSINGLEzzbSMALL DOUBLEzzhSINGLEzmSMALLzhPEAKS LARGEznMEDIUMznSMALL",
    "zhSHAKING PARALLELziINGLE STRAIGHT LARGEzzdSTzxMEDIUMzxSMALLzoWRIST FLEXzhTRIPLE ALTERNATING MOVEMENTzzbWRIST FLEX",
    "zoSTRAIGHT MOVEMENTzoWRIST FLEXzhWAVE HITTING CEILING LARGEzzdSMALLzuFLOOR LARGEzzbSMALLzmLARGEzmSMALLznNAKE",
    "ziRIST CIRCLE HITTING WALL DOUBLEzziSINGLEzhZIGZAG LARGEzoMEDIUMzoSMALLvHINGE DOWN SEQUENTIALzcSIDE TO SIDE SCISSORS",
    "zcUP DOWN ALTERNATING LARGEzwSMALLzkLARGEzkSMALLzfSEQUENTIALvWALLPLANE ARM CIRCLE MEDIUM DOUBLEzySINGLEzrSMALL DOUBLE",
    "zxSINGLEzgBEND LARGEzlMEDIUMzlSMALLzhOX LARGEzkMEDIUMzkSMALLzgCHECK LARGEzmMEDIUMzmSMALLzhORNER LARGEznMEDIUMznROTATION",
    "znSMALLzhROSSzhURVE HALF-CIRCLE LARGEzzeSTzyMEDIUMzySMALLznITTING CHESTzuFRONT WALLzmQUARTER LARGEzzaSTzuMEDIUMzuSMALL",
    "zmTHEN STRAIGHTzoREE-QUARTER CIRCLE MEDIUMzziSMALLzlD CROSS MEDIUMztSMALLzgDOUBLE ALTERNATINGzy WRIST FLEXznSTRAIGHT",
    "znWRIST FLEXzgFINGER CIRCLES DOUBLEzvSINGLEzoONTACTzgHUMP HITTING CHESTztFRONT WALLzlLARGEzlMEDIUMzlSMALLzgJAW",
    "zgLOOP HITTING CHESTztFRONT WALLzlLARGEzlMEDIUMzlSMALLzq DOUBLEzgPEAKS LARGEzmMEDIUMzmSMALLzgSHAKINGzhINGLE STRAIGHT LARGE",
    "zzcSTzwMEDIUMzwSMALLznWRIST FLEXzgTRIPLE ALTERNATINGzy WRIST FLEXznSTRAIGHT MOVEMENTznWRIST FLEXzgWAVE CURVE DOUBLE LARGE",
    "zyMEDIUMzySMALLzrTRIPLE LARGEzyMEDIUMzySMALLzlDIAGONAL PATH LARGEzzaMEDIUMzzaSMALLzlHITTING CHESTztFRONT WALL",
    "zhRIST CIRCLE FRONT DOUBLEzzaSINGLEzgZIGZAG LARGEznMEDIUMznSMALLmNECKnOSE CONTACTrNEUTRALrWIGGLESsRINKLESmPARENTHESIS",
    "mROTATION MODIFIER-10zg1zg2zg3zg4zg5zg6zf2zf3zf4zf5zf6zf7zf8zf9u-FLOORPLANE ALTERNATINGzs HITTING CEILINGzzcFLOORzhDOUBLE",
    "zn HITTING CEILINGzwFLOORzhSINGLEzn HITTING CEILINGzwFLOORvWALLPLANE ALTERNATEzoING HITTING CHESTzzbFRONT WALLzgDOUBLE",
    "zm HITTING CHESTzvFRONT WALLzgSINGLEzm HITTING CHESTzvFRONT WALLnUB BETWEENqMULTIPLEqSINGLEmSEMICOLON",
    "nHOULDER HIP POSITIONSzaSPINEvTILTING FROM WAISTnQUEEZE FLICK ALTERNATINGuLARGE MULTIPLEzbSINGLEuSEQUENTIALvMALL MULTIPLE",
    "zbSINGLEnTRIKE BETWEENtMULTIPLEtSINGLEnURFACE BETWEENuSYMBOLSmTEETHr BITE LIPSsMOVEMENTsON LIPSza MOVEMENTvTONGUE",
    "zc MOVEMENToNSE CHEEKS HIGHzaLOWzaMIDDLEnONGUE CENTRE INSIDE MOUTHzbSTICKING OUTtINSIDE MOUTH RELAXEDtLICKING LIPS",
    "tMOVES AGAINST CHEEKtSTICKING OUT FARtTIP BETWEEN LIPSxTOUCHING INSIDE MOUTHoRSO-FLOORPLANE TWISTINGsWALLPLANE CURVED BEND",
    "zdSTRAIGHT STRETCHoUCH BETWEENsMULTIPLEsSINGLEnRAVEL-FLOORPLANE ROTATION-FLOORPLANE ALTERNATINGzzaDOUBLEzzaSINGLE",
    "zoWALLPLANE ALTERNATINGzyDOUBLEzySINGLEzfSHAKINGtWALLPLANE ARM SPIRAL DOUBLEzpSINGLEzpTRIPLE",
    "zeROTATION-FLOORPLANE ALTERNATINGzyDOUBLEzySINGLEznWALLPLANE ALTERNATINGzxDOUBLEzxSINGLEzeSHAKING",
    "mUPPER BODY TILTING FROM HIP JOINTSmWALLPLANE SHOULDER HIP MOVEcLHOUETTE OF JAPAN",
    "cMILAR ABOVE GREATER-THAN ABOVE EQUALS SIGNoLESS-THAN ABOVE EQUALS SIGNiMINUS SIMILARiOR GREATER-THANlLESS-THANcNE WAVE",
    "dGLE CHARACTER INTRODUCERhGRAPHIC CHARACTER INTRODUCERhHIGH-REVERSED-9 QUOTATION MARKhLEFT-POINTING ANGLE QUOTATION MARK",
    "iOW-9 QUOTATION MARKhRIGHT-POINTING ANGLE QUOTATION MARKhSHIFT THREEoWOg-SHIFT-2n3dHALA ARCHAIC DIGIT EIGHTwFIVExOURwNINE",
    "wONEwSEVENxIXwTHREExWOqNUMBER EIGHTYxFIFTYyORTYxNINETYxONE HUNDREDzcTHOUSANDxSEVENTYyIXTYxTENyHIRTYyWENTYiLETTER AAYANNA",
    "qEEYANNArYANNAqIYANNAqLPAPRAANA BAYANNAzbCAYANNAzbDAYANNAzcDAYANNAzbGAYANNAzbJAYANNAzbKAYANNAzbPAYANNAzbTAYANNAzcTAYANNA",
    "qMBA BAYANNAqUYANNAqYANNApDANTAJA LAYANNAxNAYANNAxSAYANNApEEYANNAqYANNApFAYANNApHAYANNApIIYANNAqLUUYANNAsYANNAqRUUYANNA",
    "sYANNAqYANNApKANTAJA NAASIKYAYApMAHAAPRAANA BAYANNAzcCAYANNAzcDAYANNAzdDAYANNAzcGAYANNAzcJAYANNAzcKAYANNAzcPAYANNA",
    "zcTAYANNAzdTAYANNArYANNAqUURDHAJA LAYANNAzaNAYANNAzaSAYANNApOOYANNAqYANNApRAYANNApSANYAKA DAYANNAyDAYANNAxGAYANNAxJAYANNA",
    "pTAALUJA NAASIKYAYAxSANYOOGA NAAKSIKYAYAzaYANNApUUYANNAqYANNApVAYANNApYAYANNAjITH DIGIT EIGHTtFIVEuOURtNINEtONEtSEVENuIX",
    "tTHREEuWOtZEROiPUNCTUATION KUNDDALIYAiSIGN AL-LAKUNAoNUSVARAYAnCANDRABINDUnVISARGAYAiVOWEL SIGN AELA-PILLAtDIGA AEDA-PILLA",
    "yGAETTA-PILLAzbYANUKITTAyIS-PILLAyKOMBUVAyPAA-PILLAtGAETTA-PILLAvYANUKITTAtKETTI AEDA-PILLAzaIS-PILLAzaPAA-PILLAuOMBU DEKA",
    "yVAzb HAA AELA-PILLAzgDIGA AELA-PILLAzgGAYANUKITTAcX PETALLED BLACK AND WHITE FLORETTEfOINTED BLACK STARmPINWHEEL STAR",
    "mSTAR WITH MIDDLE DOTd-PER-EM SPACEdTEEN POINTED ASTERISKbKATEBOARDcI AND SKI BOOTdERcULLf AND CROSSBONESdNK",
    "bLANTED EQUAL TO OR GREATER-THANzh WITH DOT INSIDEuLESS-THANze WITH DOT INSIDEiNORTH ARROW WITH HOOKED HEADzcRIZONTAL TAIL",
    "dVONIC ASTERISKcEDdEPING ACCOMMODATIONjFACEjSYMBOLfY FACEdUTH OR SPYcICE OF PIZZAdGHTLY FROWNING FACEjSMILING FACEcOPE",
    "eING LARGE ANDoORdT MACHINEeHbMALL AIRPLANEhMPERSANDhSTERISKgBLUE DIAMONDgCOLONiMMAkERCIAL ATiNTAINS AS MEMBER",
    "pWITH OVERBARuVERTICAL BAR AT END OF HORIZONTAL STROKEgDOLLAR SIGNgELEMENT OFq WITH OVERBAR",
    "wVERTICAL BAR AT END OF HORIZONTAL STROKEhM DASHhQUALS SIGNhXCLAMATION MARKgFULL STOPgGREATER-THAN SIGNgHYPHEN-MINUS",
    "gIDEOGRAPHIC COMMAgLEFT CURLY BRACKETlPARENTHESISlTORTOISE SHELL BRACKETiSS-THAN SIGNgNUMBER SIGNgORANGE DIAMOND",
    "gPERCENT SIGNhLUS SIGNgQUESTION MARKgREVERSE SOLIDUShIGHT CURLY BRACKETmPARENTHESISmTORTOISE SHELL BRACKET",
    "hOMAN NUMERAL EIGHTvLEVENuFIFTYwVEy HUNDREDvOURuNINEuONEx HUNDREDyTHOUSANDuSEVENvIXuTENvHREEvWELVEwOgSEMICOLONgTILDE",
    "hWO DOTS OVER ONE DOT PUNCTUATIONgVEE WITH UNDERBARfER THANm OR EQUAL TOdSH PRODUCTcILE",
    "eING CAT FACE WITH HEART-SHAPED EYESwOPEN MOUTHiFACE WITH HALOtEART-SHAPED EYEStORNSsOPEN MOUTHzd AND COLD SWEAT",
    "ziSMILING EYESziTIGHTLY-CLOSED EYESsSMILING EYESzf AND HAND COVERING MOUTHzkTHREE HEARTStUNGLASSESsTEARdRKING FACE",
    "cOKING SYMBOLbNAILdKEcEEZING FACEcOW CAPPED MOUNTAINeBOARDEReFLAKEeMANh WITHOUT SNOWbOcCCER BALLdKScFT HYPHENfICE CREAM",
    "fSHELL FLOPPY DISKeBALLeWARE-FUNCTION SYMBOLcGDIAN COMBINING CURVE ABOVEyBELOWsDOT ABOVEwBELOWsHOOK ABOVExBELOW",
    "sLONG HOOK BELOWsRESH BELOWsSTROKE BELOWsTWO DOTS ABOVEzcBELOWiINDEPENDENT SHINiLETTER ALEPHqYINpBETHpFETHpGIMELpHErTH",
    "pKAPHpLAMEDHqESHpMEMpNUNpPEpRESH-AYINpSADHErMEKHqHINpTAWpWAWpYODHpZAYINiNUMBER ONEs HUNDREDpTENqWENTY",
    "iPUNCTUATION CIRCLE WITH DOTuHALF CIRCLE WITH DOTuTWO CIRCLES WITH DOTSyVERTICAL BARSzm WITH DOTScH",
    "cLID QUILT SQUARE ORNAMENTzc IN BLACK SQUAREfUSh WITH OVERBARcM SIGNcON WITH RIGHTWARDS ARROW ABOVEcRA SOMPENG DIGIT EIGHT",
    "tFIVEuOURtNINEtONEtSEVENuIXtTHREEuWOtZEROnLETTER AHuBAHuCAHuDAHuEEHvHuGAHuHAHuIHuJAHuKAHuLAHuMAEwHuNAHvGAHvYAHuOHuPAHuRAH",
    "uSAHuTAHuUHuVAHuYAHcScUND RECORDING COPYRIGHTdTH EAST ARROWq AND SOUTH WEST ARROWrCROSSING NORTH EAST ARROWrTO CORNER",
    "rWITH HOOKlBLACK ARROWlDOUBLE ARROWlPOINTING BUDuLEAFuVINE LEAFlSANS-SERIF ARROWlTRIANGLE-HEADED ARROWzh TO BAR",
    "lWHITE ARROWgWEST ARROWq AND NORTH WEST ARROWrWITH HOOKlBLACK ARROWlDOUBLE ARROWlPOINTING BUDuLEAFuVINE LEAF",
    "lSANS-SERIF ARROWlTRIANGLE-HEADED ARROWzh TO BARlWHITE ARROWcYOMBO CLUSTER-INITIAL LETTER LAzgRAzgSAzhHA",
    "iFINAL CONSONANT SIGN -AzeBzeDzeGzeKzeLzeMzeNzfGzeRzeSzfHiGEMINATION MARKiHEAD MARK WITH MOON AND SUNzk AND FLAME",
    "zpTRIPLE FLAMEiLETTER -ApApBAqHApCAqHApDAqDArHAqHAqZApGAqHApHApJAqHApKAqHAqSSApLApMApNAqGAqNAqYApPAqHApRApSAqHAqSApTAqHA",
    "qSArHAqTArHApVApYApZAqHAiMARK DOUBLE SHADnPLUTAnSHADnTSHEGiSIGN ANUSVARAnJIHVAMULIYAnUPADHMANIYAnVISARGAjUBJOINER",
    "iTERMINAL MARK-1w2iVOWEL LENGTH MARKoSIGN AIuUtEtItOuEtUuEtVOCALIC LzcRbPcAdCEdGHETTIdRKLEhSgING HEARTcEAK-NO-EVIL MONKEY",
    "fERh WITH CANCELLATION STROKEnONE SOUND WAVEnTHREE SOUND WAVESfING HEAD IN SILHOUETTEdECH BALLOONeDBOATdSMILO SIGN",
    "cHERICAL ANGLEp OPENING LEFTyUPcIDERg WEBdRAL CALENDAR PADhNOTE PADhSHELLcLASHING SWEAT SYMBOLcONGEdOL OF THREADeN",
    "dRTS MEDALdUTING WHALEbQUARE A OVER MiARUiMiNPEAiPAATOiRUHUAiUhBAARERUjRiEETAiIRUiORUTOiQiUSSYERUhC OVER KGiALjPiCiDiM",
    "j CUBEDkSQUAREDiOjRPORATIONiUPhDAjASUiBiESIiJiLiMj CUBEDkSQUAREDiORUhEEKAAiRA NAME HEISEIqMEIZIqREIWAqSYOUWAqTAISYOUjG",
    "iSUKUUDOiVhFMiOOTjUR CORNERShGALjNMAjRONiBiHZiIGAjNIIjRUDAAiPAiURAMUnTONiYhHAjITUiEKUTAARUjRUTUiGiIRAGANA HOKAiONjONkRUiP",
    "jAiUARADDOjIITOjRANiZhIMAGE OFp OR EQUAL TOtNOT EQUAL TOiNjINGUjTIiUhK OHMiAjIRIjRATTOkORIIiBiCALiEESUiGiHZiIROlGURAMU",
    "lMEETORUlWATTOiKiLiMj CAPITALlUBEDkSQUAREDiOOPOjRUNAiPAiTiUROONEkUZEIROiViWiYURIIhLEFT OPEN BOX OPERATORiMiNiOGjZENGEiX",
    "hM CUBEDjOHMkVER Sp SQUAREDjSQUAREDiAjHHAjIKUROkRUjNSYONjRUKUiBj SMALLiEETORUjGAlTONiGiHZiIKURONjLjRIlBAARUiLiMj CUBED",
    "kSQUAREDiOLiPAiSiU AkFkGkLkMkSkVkWiVj MEGAiWj MEGAhNAjNOiFiMiOTTOiSiViWhONSUiOMUiRIGINAL OFs OR EQUAL TOwNOT EQUAL TOiVhPA",
    "j AMPSjASENTOkTUiCiEEZIjNIHIkSUjSOiFiHiIASUTORUjKOkURUiMiOINTOjNDOjSITION INDICATORiPMiRiSiViWhRADk OVER Sr SQUAREDiEMU",
    "jNTOGENiIGHT OPEN BOX OPERATORjRAjTTORUiOOTiUPIIjUBURUhSAIKURUjNTIIMUiENTIlOiIRINGUiRiVhTARGETiHZiONhUONhV OVER MhWATTOiB",
    "iITH BOTTOM HALF BLACKmCONTOURED OUTLINEmDIAGONAL CROSSHATCH FILLmHORIZONTAL FILLmLEFT HALF BLACK",
    "nOWER LEFT DIAGONAL HALF BLACKsRIGHT DIAGONAL HALF BLACKmORTHOGONAL CROSSHATCH FILLmRIGHT HALF BLACKmTOP HALF BLACK",
    "mUPPER LEFT DIAGONAL HALF BLACKxTO LOWER RIGHT FILLsRIGHT DIAGONAL HALF BLACKyTO LOWER LEFT FILLmVERTICAL FILLhYAADOkRU",
    "iUANgD ASTERISKiCJK UNIFIED IDEOGRAPH-4E00zi9zh2Dzh8CzhA4zf518Dzg21Dzh4Dzh72zg3CCzhF3zg408zh39zg5B6zg8F0zg91Azh29zgB57",
    "zgDE6zgF8Czf624Bzh53zh95zg307zh55zg599zhB0zg620zg708zi9zgE80zgF14zf7121zg51Fzh33zg981zgA7AzgD42zf89E3zgCA9zgD70zf904Azg14D",
    "jLjOOLiDOT OPERATORiEIGHT KiFALLING DIAGONAL SLASHjIVE POINT ONEjOUR DOT PUNCTUATIONnKjREEiHCjDRjI-RESjViIDiKATAKANA DE",
    "rKOKOrSAjEYiLATIN CAPITAL LETTER AzeBzeCzeDzeEzeFzeGzeHzeIzeJzeKzeLzeMzeNzeOzePzeQzeRzeSzeTzeUzeVzeWzeXzeYzeZ",
    "oSMALL LETTER DjOGICAL ANDqORkSSLESSiMINUSjViNEWjGiOKjNE HUNDRED TWENTY PiPLUSjPViRISING DIAGONAL SLASHiSALTIREjD",
    "jECOND SCREENkVEN POINT ONEjHVjIXTY PjMALL CIRCLEjOSjQUAREjSiTHREE DjIMESjWENTY-TWO POINT TWOkO KiUHD",
    "jP WITH EXCLAMATION MARKiVODjSiWCeT BLACK RIGHTWARDS ARROWdIDbS2c3cAbTcADIUMdFF OF AESCULAPIUSjHERMESdMPED ENVELOPE",
    "dNDING PERSONdR AND CRESCENTfEQUALSfOF DAVIDgPERATORfWITH LEFT HALF BLACKkRIGHT HALF BLACKeT OF GUARDED AREAjHEADING",
    "jPROTECTED AREAjSELECTED AREAkTRINGjTEXTdTIONeUE OF LIBERTYcEAM LOCOMOTIVEfING BOWLdNOGRAPHIC FULL STOPdTHOSCOPE",
    "cICK FIGUREm LEANING LEFTvRIGHTnWITH ARMS RAISEDsDRESScOCK CHARTdPWATCHcRAIGHT RULERiNESSeWBERRYdESS OUTLINED WHITE STAR",
    "dICTLY EQUIVALENT TOeNG TERMINATORcScUDIO MICROPHONEdFFED FLATBREADdPAcXbUBdSCRIPT EIGHTlQUALS SIGNkFIVElOUR",
    "kLEFT PARENTHESISkMINUSkNINEkONEkPLUS SIGNkRIGHT PARENTHESISkSEVENlIXkTHREElWOkZEROeET ABOVE RIGHTWARDS ARROWnSUBSET",
    "pPERSEThOFj ABOVE ALMOST EQUAL TOqEQUALS SIGNqNOT EQUAL TOqTILDE OPERATORkOR EQUAL TOv WITH DOT ABOVEkWITH NOT EQUAL TO",
    "hWITH DOTmMULTIPLICATION SIGN BELOWmPLUS SIGN BELOWeTITUTEcCCEEDSi ABOVE ALMOST EQUAL TOpEQUALS SIGNpNOT ALMOST EQUAL TO",
    "tEQUAL TOpSINGLE-LINE EQUALS SIGNzcNOT EQUAL TOjBUT NOT EQUIVALENT TOjOR EQUAL TOpIVALENT TOjUNDER RELATIONcMMATION BOTTOM",
    "kTOPkWITH INTEGRALcNd BEHIND CLOUDeWITH FACEdDANESE AVAGRAHAkCONSONANT SIGN PAMINGKALzcNYAKRAzeIKUzcSANGAN MAzjWA",
    "kDIGIT EIGHTqFIVErOURqNINEqONEqSEVENrIXqTHREErWOqZEROkLETTER AsErBAsHArCArDArEsUrFAsINAL KxMrGArHArIrJArKAsHArLAsEUrMArNA",
    "sGAsYArOrPArQArRAsEUrSAsYArTArUrVArWArXArYArZAkPUNCTUATION BINDU BA SATANGAzdCAKRAzdDA SATANGAzdKA SATANGAzdLEU SATANGA",
    "zdPANGLONGzeURNAMAzdSURYAkSIGN PAMAAEHrNGLAYARtWISADsYECEKpVIRAMAkVOWEL SIGN PAMEPETxNAELAENGyEULEUNGyGHULUyOLONGyYUKU",
    "dFLOWERdRISEh OVER MOUNTAINSdSET OVER BUILDINGScPERHEROfSCRIPT EIGHTnQUALS SIGNmFIVEnOURmLATIN SMALL LETTER IzgN",
    "nEFT PARENTHESISmMINUSmNINEmONEmPLUS SIGNmRIGHT PARENTHESISmSEVENnIXmTHREEnWOmZEROgET ABOVE LEFTWARDS ARROWpSUBSETrPERSET",
    "jBESIDE AND JOINED BY DASH WITH SUBSETqSUBSETjOFl ABOVE ALMOST EQUAL TOsEQUALS SIGNsNOT EQUAL TOsTILDE OPERATOR",
    "mOR EQUAL TOx WITH DOT ABOVEmWITH NOT EQUAL TOjPRECEDING SOLIDUSjWITH DOToMULTIPLICATION SIGN BELOWoPLUS SIGN BELOW",
    "fVILLAINcRFACE INTEGRALeERcSHIdPENSION RAILWAYbWANdSH AMPERSAND ORNAMENTcIMMERcUNG DASHbYLOTI NAGRI LETTER AuBHOvOuCHOvO",
    "uDDHOwOvHOvOuEuGHOvOuHOuIuJHOvOuKHOvOuLOuMOuNOuOuPHOvOuROvROuSOuTHOvOvTHOwOuUnPOETRY MARK-1za2za3za4",
    "nSIGN ALTERNATE HASANTAtNUSVARAsDVISVARAsHASANTAnVOWEL SIGN AyEyIyOOyUcMBOL FOR ACKNOWLEDGElBACKSPACEmELLlCANCEL",
    "nRRIAGE RETURNlDATA LINK ESCAPEmELETEr FORM TWOnVICE CONTROL FOURzbONEzbTHREEzcWOlEND OF MEDIUMsTEXTtRANSMISSIONzf BLOCK",
    "nQUIRYmSCAPElFILE SEPARATORmORM FEEDlGROUP SEPARATORlHORIZONTAL TABULATIONlLINE FEEDlMARKS CHAPTERlNEGATIVE ACKNOWLEDGE",
    "nWLINEmULLlRECORD SEPARATORlSAMARITAN SOURCEmHIFT INrOUTmPACEmTART OF HEADINGuTEXTmUBSTITUTEv FORM TWOmYNCHRONOUS IDLE",
    "lTYPE A ELECTRONICSlUNIT SEPARATORlVERTICAL TABULATIONdMETRYcNdAGOGUEdCHRONOUS IDLEcRIAC ABBREVIATION MARKhBARREKH",
    "hCOLON SKEWED LEFTuRIGHTjNTRACTIONhDOTTED ZLAMA ANGULARuHORIZONTALhEND OF PARAGRAPHiSASA ABOVEnBELOWhFEMININE DOT",
    "hHARKLEAN ASTERISCUSqMETOBELUSqOBELUSiBASA ABOVEnBELOWm-ESASA DOTTEDiORIZONTAL COLONhLETTER ALAPHoBETHoDALATH",
    "pOTLESS DALATH RISHoEoFINAL SEMKATHoGAMALt GARSHUNIoHEqTHoKAPHoLAMADHoMALAYALAM BHAyJAyLLAzbLAyNGAzaNAzbNAzaYAyRAySSAyTTA",
    "pIMoNUNoPEqRSIAN BHETHwDHALATHwGHAMALoQAPHoREVERSED PEpISHoSADHEpEMKATHpHINpOGDIAN FEwKHAPHwZHAINpUPERSCRIPT ALAPHoTAWpETH",
    "s GARSHUNIoWAWoYUDHs HEoZAINhMUSIChOBLIQUE LINE ABOVEuBELOWhPTHAHA ABOVEoBELOWoDOTTEDhQUSHSHAYAhRBASA ABOVEnBELOWiUKKAKHA",
    "iWAHAhSUBLINEAR COLONw SKEWED LEFTzfRIGHTrFULL STOPjPRALINEAR COLONy SKEWED LEFTtFULL STOPhTHREE DOTS ABOVEsBELOW",
    "iWO VERTICAL DOTS ABOVEzaBELOWhZQAPHA ABOVEoBELOWoDOTTEDeNGEaT-REXcSHIRTbABdLE TENNIS PADDLE AND BALLcCOcG AMPERSAND",
    "fPOSTROPHEfSTERISKeCIRCUMFLEX ACCENTfOLONgMMAiERCIAL ATeDIGIT EIGHTkFIVElOURkNINEkONEkSEVENlIXkTHREElWOkZEROfOLLAR SIGN",
    "eEQUALS SIGNfXCLAMATION MARKeFULL STOPeGRAVE ACCENTgEATER-THAN SIGNeHYPHEN-MINUSeLATIN CAPITAL LETTER AzaBzaCzaDzaEzaFzaG",
    "zaHzaIzaJzaKzaLzaMzaNzaOzaPzaQzaRzaSzaTzaUzaVzaWzaXzaYzaZkSMALL LETTER AxBxCxDxExFxGxHxIxJxKxLxMxNxOxPxQxRxSxTxUxVxWxXxYxZ",
    "fEFT CURLY BRACKETjPARENTHESISjSQUARE BRACKETgSS-THAN SIGNfOW LINEeNUMBER SIGNePERCENT SIGNfLUS SIGNeQUESTION MARK",
    "gOTATION MARKeREVERSE SOLIDUSfIGHT CURLY BRACKETkPARENTHESISkSQUARE BRACKETeSEMICOLONfOLIDUSfPACEeTILDEeVERTICAL LINE",
    "dALOG LETTER AqRCHAIC RApBApDApGApHApIpKApLApMApNAqGApPApRApSApTApUpWApYAiSIGN PAMUDPODnVIRAMAiVOWEL SIGN ItU",
    "dBANWA LETTER AqBAqDAqGAqIqKAqLAqMAqNArGAqPAqSAqTAqUqWAqYAjVOWEL SIGN IuUcI LE LETTER ApIpUEoEpEpHoFAoHAoIoKApHAoLAoMAoNA",
    "pGAoOpOoPApHAoQAoSAoTApHApONE-2t3t4t5t6pSAqHAoUpEoVAoXAoYAeTHAM COMBINING CRYPTOGRAMMIC DOTlNSONANT SIGN BAyFINAL NGA",
    "yHIGH RATHA OR LOW PAyLA TANG LAIzaOW PAyMAzaEDIAL LAzgRAySAjHORA DIGIT EIGHTuFIVEvOURuNINEuONEuSEVENvIXuTHREEvWOuZERO",
    "jLETTER AqBAqDAqEEqGREAT SAqHIGH CAwHAvFAvHAvKAwHAwXAvPAwHAvRATHAvSAwHAwSAvTAwHAvYAqIrIqLAsErLArOW CAvHAuFAuHAuKAvHAvXAuPA",
    "vHAuRATHAuSAuTAvHAuYArUEqMAqNArGArYAqOOqRAsNAsTArUEqUrUqWAjSIGN CAANGoDOKMAIoHANGpOYoKAANsKUUpEOWpHUEN TONE-3za4za5",
    "t-LUE KARANoMAI KANGw LAIsSAMsYAMOKoRA HAAMpEVERSED ROTATED RANAoSAKOTqTKAANvKUUqWANoTONE-1t2oWIANGtWAAKjTHAM DIGIT EIGHT",
    "uFIVEvOURuNINEuONEuSEVENvIXuTHREEvWOuZEROjVOWEL SIGN AvAvEvIuEuIvIuMAI SATuOvA ABOVExBELOWvOvYuTALL AAvHAM AIuUvEvUwE",
    "eVIET LETTER HIGH BOvCHOwOvDOvFOvGOvHOvKHHOxOwOvLOvMOvNGOwOwYOvOvPHOwOvROvSOvTHOwOvVOvYOqLOW BOuCHOvOuDOuFOuGOuHOuKHHOwOvO",
    "uLOuMOuNGOvOvYOuOuPHOvOuROuSOuTHOvOuVOuYOjMAI KANGoHITjSYMBOL HO HOIqKOI KOIsNqNUENGqSAMjTONE MAI EKsNUENGsSONGsTHO",
    "jVOWEL AAqMqNqUEqYpEpIqApOpUqAqErAcKEOUT BOXdRI ABBREVIATION SIGNgDIGIT EIGHTmFIVEnOURmNINEmONEmSEVENnIXmTHREEnWOmZERO",
    "gLETTER AoAoIoRCHAIC KHAoUnBAoHAnCAoHAnDAoDApHAoHAnEnGAoHAnHAnIoInJAoHAnKAoHAnLAnMAnNAoGAoNAoYAnOnPAoHAnRAoRAnSAoHAnTAoHA",
    "oTApHAnUoUnVAnYAgSIGN ANUSVARAlNUKTAlVIRAMAnSARGAgVOWEL SIGN AAsIsUrErIsIrOrUsUcLLY MARK FIVElONEcMALEdIL AND ODD SIGN",
    "hS ABOVE SIGNhU LENGTH MARKgCREDIT SIGNhURRENT SIGNgDAY SIGNhEBIT SIGNhIGIT EIGHTmFIVEnOURmNINEmONEmSEVENnIXmTHREEnWOmZERO",
    "hRY CULTIVATION SIGNgFRACTION DOWNSCALING FACTOR KIIZHpONE EIGHTHyIETHtFIFTHuORTIETHtHALF-1y2tONE-HUNDRED-AND-SIXTIETH",
    "tQUARTERtSIXTEENTH-1ze2xY-FOURTHtTENTHuHIRTY-SECONDvREE-HUNDRED-AND-TWENTIETHuWENTIETHpTHREE EIGHTIETHSvQUARTERS",
    "vSIXTEENTHSzaY-FOURTHSvTWENTIETHSgIN POSSESSION SIGNgLAND SIGNhETTER AoAoIoUnCAnEoEnHAnIoInJAnKAnLAoLApLAnMAnNAoGAoNApNA",
    "oYAnOoOnPAnRAoRAnSAoHAoSAnTAoTAnUoUnVAnYAgMONTH SIGNgNUMBER ONE HUNDREDrTHOUSANDnSIGNnTENgOMgPUNCTUATION END OF TEXT",
    "gRUPEE SIGNgSALT PAN SIGNhIGN AAZHAAKKUmNUSVARAlCEVITUlKAACUmURUNInZHIlMUKKURUNInTHALIYAnUVUZHAKKUlNELlPAARAMnNAMnTHAKKU",
    "mONlUZHAKKUlVAKAIYARAAnRAAKANmELImIRAMAnSARGAhPENT SIGNhTARTING FROM SIGNgTOTAL SIGNhRADITIONAL CREDIT SIGNsNUMBER SIGN",
    "gVOWEL SIGN AAsIsUrEsErIsIrOsOrUsUgWET CULTIVATION SIGNgYEAR SIGNcNABATA TREEdGERINEeSA DIGIT EIGHTnFIVEoOURnNINEnONE",
    "nSEVENoIXnTHREEoWOnZEROhLETTER ACpQpWCqQqXqZpXpZoBAoCApHAoDApHAoECpQpXpZoFApINAL NGoGApHAoHApTAqTAoICpQpXpZoKApHAoLA",
    "pONG UEXoMApCpQpXpZoNApGApHApYAoOCpQpXpZoPApHAoRAoSApHAqORT AWXuUEZoTApHApSAoUCpECqQqXqZpICqQqUCrQrXrZqXqZpQpXpZoVCpQpXpZ",
    "oWAoXAoYAoZAeUT COMPONENT-001t2t3t4t5t6t7t8t9s10t1t2t3t4t5t6t7t8t9s20t1t2t3t4t5t6t7t8t9s30t1t2t3t4t5t6t7t8t9s40t1t2t3t4t5",
    "t6t7t8t9s50t1t2t3t4t5t6t7t8t9s60t1t2t3t4t5t6t7t8t9s70t1t2t3t4t5t6t7t8t9s80t1t2t3t4t5t6t7t8t9s90t1t2t3t4t5t6t7t8t9r100t1t2",
    "t3t4t5t6t7t8t9s10t1t2t3t4t5t6t7t8t9s20t1t2t3t4t5t6t7t8t9s30t1t2t3t4t5t6t7t8t9s40t1t2t3t4t5t6t7t8t9s50t1t2t3t4t5t6t7t8t9s60",
    "t1t2t3t4t5t6t7t8t9s70t1t2t3t4t5t6t7t8t9s80t1t2t3t4t5t6t7t8t9s90t1t2t3t4t5t6t7t8t9r200t1t2t3t4t5t6t7t8t9s10t1t2t3t4t5t6t7t8",
    "t9s20t1t2t3t4t5t6t7t8t9s30t1t2t3t4t5t6t7t8t9s40t1t2t3t4t5t6t7t8t9s50t1t2t3t4t5t6t7t8t9s60t1t2t3t4t5t6t7t8t9s70t1t2t3t4t5t6",
    "t7t8t9s80t1t2t3t4t5t6t7t8t9s90t1t2t3t4t5t6t7t8t9r300t1t2t3t4t5t6t7t8t9s10t1t2t3t4t5t6t7t8t9s20t1t2t3t4t5t6t7t8t9s30t1t2t3",
    "t4t5t6t7t8t9s40t1t2t3t4t5t6t7t8t9s50t1t2t3t4t5t6t7t8t9s60t1t2t3t4t5t6t7t8t9s70t1t2t3t4t5t6t7t8t9s80t1t2t3t4t5t6t7t8t9s90t1",
    "t2t3t4t5t6t7t8t9r400t1t2t3t4t5t6t7t8t9s10t1t2t3t4t5t6t7t8t9s20t1t2t3t4t5t6t7t8t9s30t1t2t3t4t5t6t7t8t9s40t1t2t3t4t5t6t7t8t9",
    "s50t1t2t3t4t5t6t7t8t9s60t1t2t3t4t5t6t7t8t9s70t1t2t3t4t5t6t7t8t9s80t1t2t3t4t5t6t7t8t9s90t1t2t3t4t5t6t7t8t9r500t1t2t3t4t5t6",
    "t7t8t9s10t1t2t3t4t5t6t7t8t9s20t1t2t3t4t5t6t7t8t9s30t1t2t3t4t5t6t7t8t9s40t1t2t3t4t5t6t7t8t9s50t1t2t3t4t5t6t7t8t9s60t1t2t3t4",
    "t5t6t7t8t9s70t1t2t3t4t5t6t7t8t9s80t1t2t3t4t5t6t7t8t9s90t1t2t3t4t5t6t7t8t9r600t1t2t3t4t5t6t7t8t9s10t1t2t3t4t5t6t7t8t9s20t1",
    "t2t3t4t5t6t7t8t9s30t1t2t3t4t5t6t7t8t9s40t1t2t3t4t5t6t7t8t9s50t1t2t3t4t5t6t7t8t9s60t1t2t3t4t5t6t7t8t9s70t1t2t3t4t5t6t7t8t9",
    "s80t1t2t3t4t5t6t7t8t9s90t1t2t3t4t5t6t7t8t9r700t1t2t3t4t5t6t7t8t9s10t1t2t3t4t5t6t7t8t9s20t1t2t3t4t5t6t7t8t9s30t1t2t3t4t5t6",
    "t7t8t9s40t1t2t3t4t5t6t7t8t9s50t1t2t3t4t5t6t7t8t9s60t1t2t3t4t5t6t7t8hITERATION MARKcPE CARTRIDGEfDRIVEcURUScXI",
    "bEACUP WITHOUT HANDLEdPOTdR-OFF CALENDAReDROP-BARBED RIGHTWARDS ARROWjSPOKED ASTERISKcDDY BEARcLEPHONE LOCATION SIGN",
    "kON TOP OF MODEMkRECEIVERs WITH PAGEnORDERkSIGNeSCOPEeVISIONdUGU AI LENGTH MARKhDIGIT EIGHTnFIVEoOURnNINEnONEnSEVENoIX",
    "nTHREEoWOnZEROhFRACTION DIGIT ONE FOR EVEN POWERS OF FOURzfODD POWERS OF FOURwTHREE FOR EVEN POWERS OF FOUR",
    "zhODD POWERS OF FOURxWO FOR EVEN POWERS OF FOURzfODD POWERS OF FOURwZERO FOR ODD POWERS OF FOURhLENGTH MARKjTTER ApApIpU",
    "oBApHAoCApHAoDApDAqHApHApZAoEpEoGApHAoHAoIpIoJApHAoKApHAoLApLAqLAoMAoNAqKAARA POLLUpGApNApYAoOpOoPApHAoRApRAqRAoSApHApSA",
    "oTApHApSApTAqHAoUpUoVApOCALIC LxLwRxRoYAhSIGN ANUSVARAnVAGRAHAmCANDRABINDUnOMBINING ANUSVARA ABOVEwCANDRABINDU ABOVEmNUKTA",
    "mSIDDHAMmTUUMUmVIRAMAoSARGAhVOWEL SIGN AAtItUsEtEsItIsOtOsUtUsVOCALIC LzcLzbRzcRcNGE SIGNdNIS RACQUET AND BALLdTcST TUBE",
    "cTRAGRAM FOR ACCUMULATIONpDVANCEpGGRAVATIONpSCENToBARRIERpOLD RESOLUTIONpRANCHING OUToCENTREpHANGEpLOSED MOUTHtNESSsURE",
    "pOMPLETIONtIANCEqNSTANCYrTACTsENTIONsRARIETYoDARKENINGpECISIVENESSqFECTIVENESS OR DISTORTIONqPARTUREpIFFICULTIES",
    "qMINISHMENTrMINGqVERGENCEpOUBTpUTIESoEASEpMBELLISHMENTpNCOUNTERSqDEAVOURqLARGEMENTpTERNITYpXHAUSTIONoFAILUREpLIGHT",
    "pOLLOWINGqSTERINGpULL CIRCLEsNESSoGATHERINGx INpOING TO MEETpREATNESSpUARDEDNESSoHARDNESSpOLDING BACKoINCREASEqNERoJOY",
    "oKEEPING SMALLpINSHIPoLABOURINGqW OR MODELpEGIONoMASSINGpEASUREpIREDoON THE VERGEpPPOSITIONoPACKINGqTTERNpENETRATIONpURITY",
    "oREACHqLEASEqSIDENCEsSTANCErPONSEpITUALoSEVERANCEpINKINGpTOPPAGErVEqRENGTHoUNITYoVASTNESS OR WASTINGoWAITINGqTCH",
    "oYOUTHFULNESSbHAANA AABAAFILIiBAFILIhEBEFILIiEBEEFILIiYBEYFILIhIBIFILIhLETTER AINUpLIFUoBAAoCHAVIYANIoDAADHUqVIYANIpHAALU",
    "oFAAFUoGAAFUpHAINUpNAVIYANIoHAApHAAoJAVIYANIoKAAFUpHAAoLAAMUpHAVIYANIoMEEMUoNAApOONUoPAVIYANIoQAAFUoRAAoSAADHUpEENU",
    "pHAVIYANIqEENUoTAVIYANIpHAAsLUpOpTAAoVAAVUoWAAVUoYAAoZAAqVIYANIpOhOABOAFILIiBOFILIiOBOOFILIhSUKUNhUBUFILI",
    "dI CHARACTER ANGKHANKHUpBO BAIMAIpCHO CHANxGvINGvOEpDO CHADAsDEKpFO FAuNrNGMANpHO HIPsNOKHUKpKHO KHAIvONvUATvWAItRAKHANG",
    "sMUTqO KAIpLAKKHANGYAOqO CHULAsLINGqUpMAI CHATTAWAtEKtHAN-AKATtTHOuRIsTAIKHUsYAMOKqO MApNGO NGUqIKHAHITqO NENtUpO ANG",
    "pPAIYANNOIqHINTHUrO PHANvUNGtSAMPHAOqO PLApRO RUAqUpSARA AvAvEvI MAIMALAIzcUANvMuEuIvIuOuUvEwEvUqO RUSIsSALAtOtUA",
    "pTHANTHAKHATrO NANGMONTHOtPHUTHAOtTHAHANwNvONGvUNGqO PATAKsTAOpWO WAENpYAMAKKANqO YAKtINGgURRENCY SYMBOL BAHTfDIGIT EIGHT",
    "lFIVEmOURlNINElONElSEVENmIXlTHREEmWOlZEROcERE DOES NOT EXISTgEXISTSfFOREeMODYNAMICgMETERcIN GREEK CROSSfSALTIREgPACE",
    "eKING FACEdRD PLACE MEDALcONG SANDALdUGHT BALLOONcREE BUTTON MOUSEgCONSECUTIVE EQUALS SIGNSgDIMENSIONAL ANGLE",
    "hOT PUNCTUATIONgLEFTWARDS ARROWShINES CONVERGING LEFTxRIGHTgNETWORKED COMPUTERSgPOINTED BLACK STARgRAYS ABOVElBELOWlLEFT",
    "lRIGHThIGHTWARDS ARROWSgSPEECH BUBBLESf-D BOTTOM-LIGHTED RIGHTWARDS ARROWHEADiLEFT-LIGHTED DOWNWARDS EQUILATERAL ARROWHEAD",
    "iRIGHT-LIGHTED UPWARDS EQUILATERAL ARROWHEADiTOP-LIGHTED LEFTWARDS EQUILATERAL ARROWHEADuRIGHTWARDS ARROWHEAD",
    "zgEQUILATERAL ARROWHEADgEM DASHgPER-EM SPACEcUMBS DOWN SIGNhUP SIGNdNDER CLOUD AND RAINhSTORM",
    "bIBETAN ASTROLOGICAL SIGN -KHYUD PAzbSDONG TSHUGSzcGRA GCAN -CHAR RTAGSiCANTILLATION SIGN CANG TE-UzbHEAVY BEAT",
    "zbLIGHT BEATzbSBUB -CHALiDIGIT EIGHToFIVEpOURoHALF EIGHTtFIVEuOURtNINEtONEtSEVENuIXtTHREEuWOtZEROoNINEoONEoSEVENpIXoTHREE",
    "pWOoZEROiKU RU KHAr BZHI MIG CANiLETTER -ApApBAqHApCAqHApDAqDArHAqHAqZArHApFIXED-FORM RApGAqHApHApJApKAqHAqKAqSSApLApMApNA",
    "qGAqNAqYApPAqHApRAqRApSAqHAqSApTAqHAqSArHAqTArHApWApYApZAqHAjOGOTYPE SIGN CHAD RTAGSwLHAG RTAGSiMARK ANG KHANG GYASzaON",
    "nBKA- SHOG GI MGO RGYANxYIG MGOoSDUS RTAGSpKA- SHOG GI MGO RGYANqUR YIG MGOnCARET -DZUD RTAGS BZHI MIG CANzgME LONG CAN",
    "tYIG MGO PHUR SHAD MAoHE MGOoLOSING BRDA RNYING YIG MGO SGAB MAvYIG MGO SGAB MAnDELIMITER TSHEG BSTARnGTER TSHEG",
    "sYIG MGO -UM GTER TSHEG MAzfRNAM BCAD MAzbTRUNCATED AoUG RTAGS GYASzaONnHALANTAnINITIAL BRDA RNYING YIG MGO MDUN MA",
    "vYIG MGO MDUN MApTERSYLLABIC TSHEGnLEADING MCHAN RTAGSnMNYAM YIG GI MGO RGYANnNGAS BZUNG NYI ZLAySGOR RTAGSoYIS SHADsTSHEG",
    "x SHADnPALUTAnRGYA GRAM SHADoIN CHEN SPUNGS SHADnSBRUL SHADoHADnTRAILING MCHAN RTAGSoSA -PHRUpHEG SHAD",
    "nYIG MGO TSHEG SHAD MAiSIGN GRU CAN RGYINGSrMED RGYINGSnINVERTED MCHU CANnLCE TSA CANpI RTAGSnMAR TSHESoCHU CAN",
    "nNYI ZLA NAA DAnRDEL DKAR GCIGyNYISySUMxRDEL NAGsNAG GCIGxNYISxSUMwRDEL DKARoJES SU NGA ROoNAM BCADnSNA LDANnYANG RTAGS",
    "pR TSHESjUBJOINED LETTER -AzaAzaBAzbHAzaCAzbHAzaDAzbDAzcHAzbHAzbZAzcHAzaFIXED-FORM RAzlWAzlYAzaGAzbHAzaHAzaJAzaKAzbHAzbSSA",
    "zaLAzaMAzaNAzbGAzbNAzbYAzaPAzbHAzaRAzaSAzbHAzbSAzaTAzbHAzbSAzcHAzbTAzcHAzaWAzaYAzaZAzbHAsSIGN INVERTED MCHU CAN",
    "xLCE TSA CANxMCHU CANjYLLABLE OMkMBOL DRIL BUpNOR BUv BZHI -KHYILwGSUM -KHYILwNYIS -KHYILpPADMA GDANqHUR PApRDO RJE",
    "w RGYA GRAMiVOWEL SIGN AAtEuEtIuItOuOtREVERSED IzeItUuUtVOCALIC LzdLzcRzdRcCKETcE OVER INFINITYcFINAGH CONSONANT JOINER",
    "jLETTER AHAGGAR YAZHrYER YAGHqBERBER ACADEMY YAHziJqTAWELLEMET YAZrUAREG YAGHzbNzaHzaKzbHzaNGzaQzaZHqYAsAsBtHsCHsDtDuHtHsF",
    "sGtHuHsHtHsJsKtHuHsLsMsNsPsQsRtRsStHtSsTtHtTsVsWsYsZtHtZrEsYrIrOrUjMODIFIER LETTER LABIALIZATION MARKjSEPARATOR MARKcGER",
    "f FACEdHT TRIFOLIATE SNOWFLAKEcLDEf OPERATORo ABOVE LEFTWARDS ARROWvRIGHTWARDS ARROWpWITH DOT ABOVEuRISING DOTS",
    "gWITH DOT ABOVEpBELOWlRING ABOVEcMER CLOCKeS WITH LEFT HALF BLACKlRIGHT HALF BLACKcNYe TWO DOTS OVER ONE DOT PUNCTUATION",
    "cRED FACEdHUTA ABBREVIATION SIGNjNJIiDIGIT EIGHToFIVEpOURoNINEoONEoSEVENpIXoTHREEpWOoZEROiGVANGiLETTER AqAqIqUpBAqHApCAqHA",
    "pDAqDArHAqHApEpGAqHApHApIqIpJAqHApKAqHApLApMApNAqGAqNAqYApOpPAqHApRApSAqHAqSApTAqHAqTArHApUqUpVAqOCALIC LyLxRyRpYAiOM",
    "iSIGN ANUSVARAoVAGRAHAnCANDRABINDUnNUKTAnVIRAMApSARGAiVOWEL SIGN AAuIuUtEtIuItOtSHORT EzaOtUuUtVOCALIC LzdLzcRzdR",
    "dONIAN SIGN CAPITAL EToETbOILETcKYO TOWERcMATOcNGUEcOLBOXdTHfBRUSHcP ARC ANTICLOCKWISE ARROWzc WITH PLUS",
    "iCLOCKWISE ARROW WITH MINUSeCURLY BRACKETeHALF BLACK CIRCLEjINTEGRALjLEFT PARENTHESISjRIGHT PARENTHESISjSECTION SIGNgT",
    "eLEFT CORNERkROPjHALF BRACKETePARENTHESISeRIGHT CORNERlROPkHALF BRACKETeSQUARE BRACKETeTORTOISE SHELL BRACKET",
    "eWITH UPWARDS ARROW ABOVEcRTOISE SHELL BRACKETED CJK UNIFIED IDEOGRAPH-4E09zy8Czw52DDzxB89zw6253zx557zx72Czw70B9zx6D7",
    "zaLATIN CAPITAL LETTER ScTAL RUNOUTdO LETTER AnEmBAnREATHY AEuEvOuIvUmCHAmDAmEnOmGAmHAmInUmJAmKAmLAmMAmNAnGAmOmPAmRAmSAmTA",
    "mUmWAmYAfSIGN RISING TONEbRACKBALLeTORdDE MARK SIGNdINdMe CARdNSPLUTOfVERSAL INTERSECTIONcIANGLE WITH DOT ABOVE",
    "oROUNDED CORNERSoSERIFS AT BOTTOMoUNDERBARi-HEADED RIGHTWARDS ARROWgULAR BULLETlFLAG ON POSTlRULERdCOLONdDENT EMBLEM",
    "dGRAM FOR EARTHmFIREmHEAVENmLAKEmMOUNTAINmTHUNDERmWATERnINDdPLE COLON OPERATORhDAGGER",
    "hHORIZONTAL BAR WITH DOUBLE VERTICAL STROKEzcTRIPLE VERTICAL STROKEhINTEGRALhNESTED GREATER-THANoLESS-THANhPLUSiRIME",
    "hSOLIDUS BINARY RELATIONhTILDEhVERTICAL BAR BINARY RELATIONuDELIMITERuRIGHT TURNSTILEuWITH HORIZONTAL STROKEcOLLfEYBUSdPHY",
    "eICAL DRINKjFISHcUEe LIGHT MOON ARTAdMPETbUGRIK SIGNcLIPcMBLER GLASScRKEYeISH LIRA SIGNdNED AMPERSANDiNGLEhBLACK PENTAGON",
    "nSHOGI PIECEhCAPITAL FiOMMAhDAGGERiIGIT THREEoWOhGREEK SMALL LETTER IOTAhNORTH EAST POINTING LEAFnWEST POINTING LEAF",
    "jT SIGNhOK HAND SIGNhSANS-SERIF CAPITAL GzbLzbYiEMICOLONiMALL FiOUTH EAST POINTING LEAFnWEST POINTING LEAF",
    "hWHITE SHOGI PIECEdTLEbWELVE POINTED BLACK STARcISTED RIGHTWARDS ARROWScO ASTERISKS ALIGNED VERTICALLYeBUTTON MOUSE",
    "eCONSECUTIVE EQUALS SIGNSeDOT LEADERiPUNCTUATIONhS OVER ONE DOT PUNCTUATIONeHEARTSeINTERSECTING LOGICAL ANDzaOR",
    "eJOINED SQUARESeLOGICAL AND OPERATORmOR OPERATOReMEN HOLDING HANDSeSPEECH BUBBLESeWOMEN HOLDING HANDSd-EM DASH",
    "aUGARITIC LETTER AINrLPAqBETAqDELTArHALqGAMLArHAINqHOsTAqIqKAFrHAqLAMDAqMEMqNUNqPUqQOPAqRASHAqSADEsMKArHINrSUqTETrHANNArO",
    "qUqWOqYODqZETArUjWORD DIVIDERbMBRELLAi ON GROUNDjWITH RAIN DROPSbNAMUSED FACEcCERTAINTY SIGNcDERTIEdO SYMBOLcICORN FACEdON",
    "f ABOVE BAR ABOVE INTERSECTIONmINTERSECTIONgBESIDE AND JOINED WITH UNIONgWITH LOGICAL ORlMINUS SIGNlOVERBARdT SEPARATOR",
    "eED SYMBOLdVERSAL RECYCLING SYMBOLcMARRIED PARTNERSHIP SYMBOLbP ARROW THROUGH CIRCLEiHEADm BETWEEN TWO HORIZONTAL BARS",
    "nIN A RECTANGLE BOXdBARB LEFT DOWN BARB LEFT HARPOONxRIGHT HARPOONiRIGHT DOWN BARB LEFT HARPOONyRIGHT HARPOONdDOWN ARROW",
    "n WITH BASEiBLACK ARROWiDOUBLE ARROWiSANS-SERIF ARROWiTRIANGLE-HEADED ARROWiWHITE ARROWdFISH TAILdRIGHT DIAGONAL ELLIPSIS",
    "dTACKh WITH CIRCLE ABOVEc-POINTING AIRPLANEmMILITARY AIRPLANEmRED TRIANGLEmSMALL AIRPLANEsRED TRIANGLE",
    "mTRIANGLE WITH LEFT HALF BLACKzbRIGHT HALF BLACKcPER AND LEFT AND LOWER TRIANGULAR THREE QUARTERS BLOCK",
    "lOWER ONE EIGHTH BLOCKqTRIANGULAR HALF BLOCKkRIGHT AND LOWER TRIANGULAR THREE QUARTERS BLOCKgBLADE SCISSORS",
    "gFIVE EIGHTHS BLOCKgHALF BLOCKq AND LOWER HALF INVERSE MEDIUM SHADElCIRCLElINVERSE MEDIUM SHADE AND LOWER HALF BLOCK",
    "tWHITE CIRCLElMEDIUM SHADEgLEFT BLOCK DIAGONAL LOWER CENTRE TO LOWER MIDDLE RIGHTzrUPPER MIDDLE RIGHTzxRIGHT",
    "zhLEFT TO LOWER MIDDLE RIGHTzpUPPER CENTREzvMIDDLE RIGHTzhMIDDLE LEFT TO UPPER CENTREzzdMIDDLE RIGHTzzdRIGHT",
    "zbUPPER MIDDLE LEFT TO UPPER CENTREzzdRIGHTlCORNER WITH DOTlOR LOWER RIGHT CURLY BRACKET SECTIONlQUADRANT CIRCULAR ARC",
    "lTO LOWER RIGHT FILLmRIANGLErULAR MEDIUM SHADEgONE EIGHTH BLOCKkQUARTER BLOCK",
    "gRIGHT BLOCK DIAGONAL LOWER MIDDLE LEFT TO LOWER CENTREzzeRIGHTzcUPPER CENTRE TO LOWER MIDDLE RIGHTzyRIGHT",
    "zsUPPER MIDDLE RIGHTziLEFT TO LOWER CENTREzwMIDDLE RIGHTzqUPPER MIDDLE RIGHTziMIDDLE LEFT TO LOWER CENTREzzeMIDDLE RIGHT",
    "zzeRIGHTmDROP-SHADOWED WHITE SQUAREmOR LOWER LEFT CURLY BRACKET SECTIONmPENCILmQUADRANT CIRCULAR ARCmSHADOWED WHITE CIRCLE",
    "zcSQUAREmTO LOWER LEFT FILLnRIANGLEsULAR MEDIUM SHADEgSEVEN EIGHTHS BLOCKgTHREE EIGHTHS BLOCKmQUARTERS BLOCK",
    "hRIANGULAR ONE QUARTER BLOCKcSIDE-DOWN FACEcWARDS ANCORAjRROWn AND RIGHT ONE EIGHTH BLOCKoFROM BAR",
    "oLEFTWARDS OF DOWNWARDS ARROWoTO BARoWITH DOUBLE STROKEtEQUILATERAL ARROWHEADtHORIZONTAL STROKEtLARGE TRIANGLE ARROWHEAD",
    "tMEDIUM TRIANGLE ARROWHEADtNOTCHED TAILtSMALL EQUILATERAL ARROWHEADzaTRIANGLE ARROWHEADtTIP LEFTWARDSxRIGHTWARDS",
    "iBLACK ARROWoCIRCLED WHITE ARROWiCOMPRESSED ARROWiDASHED ARROWjOUBLE ARROWiFINGER-POST ARROW",
    "iHARPOON WITH BARB LEFT BESIDE DOWNWARDS HARPOON WITH BARB RIGHTznUPWARDS HARPOON WITH BARB RIGHTzgFROM BARzgTO BARzfWARDS",
    "zbRIGHT FROM BARzhTO BARzgWARDSjEAVY ARROWoCOMPRESSED ARROWiPAIRED ARROWSiQUADRUPLE ARROWiROCKETiSANS-SERIF ARROW",
    "jQUARED ARROWiTRIANGLE ARROWHEADq-HEADED ARROWze LEFTWARDS OF DOWNWARDS TRIANGLE-HEADED ARROWzfTO BARzfWITH BOLD SHAFT",
    "zkDOUBLE HORIZONTAL STROKEzkHEAVY SHAFTzkLONG TIP LEFTWARDSztRIGHTWARDSzkMEDIUM SHAFTzkNARROW SHAFTzkVERY HEAVY SHAFT",
    "yDASHED ARROWyPAIRED ARROWSlPLE ARROWjWO HEADED ARROWl-HEADED ARROW FROM SMALL CIRCLEzaWITH TRIANGLE ARROWHEADS",
    "iWHITE ARROWt FROM BARzd WITH HORIZONTAL BARuON PEDESTALzg WITH HORIZONTAL BARzmVERTICAL BARuWITHIN TRIANGLE ARROWHEAD",
    "oDOUBLE ARROWzb ON PEDESTALbRANUSbSaVAI COMMAeDIGIT EIGHTkFIVElOURkNINEkONEkSEVENlIXkTHREElWOkZEROeFULL STOPeQUESTION MARK",
    "eSYLLABLE AoNnBAoEpEoHApEqEpIpOqOpUoIoOpOoUnCAoEpEoIoOpOoUnDAoEpEoHApEqEpHAqErEqIqOrOqUpIpOqOpUoIoOpOoUnEoEpNoNnFAoEpEoIoO",
    "pOoUnGAoBApEqEqNpIpOqNqOpUoEpEpNoIoOpOoUnHApNoEpEpNoIpNoOpNpOoUpNnIoNnJAoEpEoIoOpOoUnKApNoEpEoIoOpOoPAqNpEqEqNpIpOqOpUoU",
    "nLAoEpEpNGTHENERoIoOpOoUnMAoBApEqEpIpOqOpUoEpEoGBAqErEqIqOrOqUoIoOpOoUnNAoDApEqEpIpOqLE DOtFAtKAtMAtSOOqOpUoEpEoGpANpENpGA",
    "qErErNqIqOrOqUpONoIoJApEqEpIpOqOpUoOpOoUoYApEqEpIpOqOpUnOoNoOpNnPAoEpEoIoOpOoUnRAoEpEoIoOpOoUnSAoEpEoHApEqEpIpOqOpUoIoOpO",
    "oUnTAoEpEoHApEqEpIpOqOpUoIoOpOoUnUoNnVAoEpEoIoOpOoUnWApNoEpEqNpNoIpNoOpNpOqNoUpNnYAoEpEoIoOpOoUnZAoEpEoHApEqEpIpOqOpUoIoO",
    "pOoUgMBOL BANGlDANGmO-OnONGlFAAmEENGlJONGlKEENGmUNGlNIIlTAAmINGmONGcMPIREcRIATION SELECTOR-1u0v0v1v2v3v4v5v6v7v8v9u1v0v1v2",
    "v3v4v5v6v7v8v9u2v0v1v2v3v4v5v6v7v8v9u3v0v1v2v3v4v5v6v7v8v9u4v0v1v2v3v4v5v6v7v8v9u5v0v1v2v3v4v5v6v7v8v9u6v0v1v2v3v4v5v6v7v8",
    "v9u7v0v1v2v3v4v5v6v7v8v9u8v0v1v2v3v4v5v6v7v8v9u9v0v1v2v3v4v5v6v7v8v9t2u0v0v1v2v3v4v5v6v7v8v9u1v0v1v2v3v4v5v6v7v8v9u2v0v1v2",
    "v3v4v5v6v7v8v9u3v0v1v2v3v4v5v6v7v8v9u4v0v1v2v3v4v5v6v7v8v9u5v0v1v2v3v4v5v6u6u7u8u9t3u0u1u2u3u4u5u6u7u8u9t4u0u1u2u3u4u5u6u7",
    "u8u9t5u0u1u2u3u4u5u6u7u8u9t6u0u1u2u3u4u5u6u7u8u9t7u0u1u2u3u4u5u6u7u8u9t8u0u1u2u3u4u5u6u7u8u9t9u0u1u2u3u4u5u6u7u8u9",
    "bECTOR OR CROSS PRODUCTcDIC SIGN ANUSVARA ANTARGOMUKHAuBAHIRGOMUKHAuUBHAYATO MUKHAuVAMAGOMUKHAzg WITH TAILmRDHAVISARGA",
    "mTIKRAMAlDOUBLE ANUSVARA ANTARGOMUKHAlHEXIFORM LONG ANUSVARAlJIHVAMULIYAlLONG ANUSVARAlNIHSHVASAlREVERSED VISARGA ANUDATTA",
    "zdUDATTAmOTATED ARDHAVISARGAmTHANG LONG ANUSVARAlTIRYAKlUPADHMANIYAlVISARGA ANUDATTAzc WITH TAILtSVARITAtUDATTA",
    "za WITH TAILlYAJURVEDIC MIDLINE SVARITAgTONE ATHARVAVEDIC INDEPENDENT SVARITAlCANDRA ABOVEsBELOWlDOT BELOWnUBLE RING ABOVE",
    "sSVARITAlKARSHANAnTHAKA ANUDATTAlPRENKHAlRIGVEDIC KASHMIRI INDEPENDENT SVARITAnNG ABOVElSHARAlTHREE DOTS BELOW",
    "mRIPLE SVARITAmWO DOTS BELOWlYAJURVEDIC AGGRAVATED INDEPENDENT SVARITAwINDEPENDENT SVARITAwKATHAKA INDEPENDENT SVARITA",
    "zy SCHROEDERcRSICLEdTICAL BAR BESIDE RIGHT TRIANGLEnDOUBLE LEFT TURNSTILEnTRIPLE RIGHT TURNSTILEnWITH HORIZONTAL STROKE",
    "jELLIPSISjFOUR DOTSjIDEOGRAPHIC ITERATION MARKjKANA REPEAT MARKza LOWER HALFzbUPPER HALFvWITH VOICED SOUND MARK",
    "zs UPPER HALFjLINEn EXTENSIONoWITH CIRCLE ABOVEzbBELOWtMIDDLE DOTjMALE WITH STROKE SIGNjONE EIGHTH BLOCK-2zb3zb4zb5zb6zb7",
    "jSIX DOTSjTAB KEYmULATIONt SETkILDEkRAFFIC LIGHTjZIGZAG LINEdY BOLD GREEK CROSSfHEAVY EIGHT POINTED BLACK STAR",
    "rSPOKED ASTERISKlFIVE SPOKED ASTERISKlGREEK CROSSlREVERSE SOLIDUSlSALTIREmIX SPOKED ASTERISKmOLIDUSlWHITE CIRCLErSQUARE",
    "fMUCH GREATER-THANkLESS-THANcSTAbIBRATION MODEcCTORY HANDcDEO CAMERAgGAMEfCASSETTEcETNAMESE ALTERNATE READING MARK CA",
    "zjNHAYdWDATA SQUAREcOLINcRGOcTHKUQI CAPITAL LETTER AyBBEzaEyCEzaHEyDEzaHEyEzaIyFEyGAyHAzaHAyIzaJEyJEyKAyLAzaLAyMEyNEzaJEyO",
    "yPEyQAyREySEzaHEyTEzaHEyUyVEyXEyYyZEjSMALL LETTER AwBBExEwCExHEwDExHEwExIwFEwGAwHAxHAwIxJEwJEwKAwLAxLAwMEwNExJEwOwPEwQAwRE",
    "wSExHEwTExHEwUwVEwXEwYwZEbOIDED GREEK CROSScLCANOdLEYBALLdUME INTEGRALbS1d0e0e1e2e3e4e5e6e7e8e9d1e0e1e2e3e4e5e6e7e8e9d2e0",
    "e1e2e3e4e5e6e7e8e9d3e0e1e2e3e4e5e6e7e8e9d4e0e1e2e3e4e5e6e7e8e9d5e0e1e2e3e4e5e6e7e8e9d6e0e1e2e3e4e5e6e7e8e9d7e0e1e2e3e4e5e6",
    "e7e8e9d8e0e1e2e3e4e5e6e7e8e9d9e0e1e2e3e4e5e6e7e8e9c2d0e0e1e2e3e4e5e6e7e8e9d1e0e1e2e3e4e5e6e7e8e9d2e0e1e2e3e4e5e6e7e8e9d3e0",
    "e1e2e3e4e5e6e7e8e9d4e0e1e2e3e4e5e6e7e8e9d5e0e1e2e3e4e5e6d6d7d8d9c3d0d1d2d3d4d5d6d7d8d9c4d0d1d2d3d4d5d6d7d8d9c5d0d1d2d3d4d5",
    "d6d7d8d9c6d0d1d2d3d4d5d6d7d8d9c7d0d1d2d3d4d5d6d7d8d9c8d0d1d2d3d4d5d6d7d8d9c9d0d1d2d3d4d5d6d7d8d9bTcSbULCANUS",
    "dGAR FRACTION FIVE EIGHTHSvSIXTHSrOUR FIFTHSqONE EIGHTHuFIFTHuHALFuNINTHuQUARTERuSEVENTHvIXTHuTENTHvHIRDqSEVEN EIGHTHS",
    "qTHREE EIGHTHSwFIFTHSwQUARTERSrWO FIFTHSuTHIRDSqZERO THIRDSaWAFFLEcNCHO DIGIT EIGHTnFIVEoOURnNINEnONEnSEVENoIXnTHREEoWO",
    "nZEROhLETTER ApAqNrGpNGpUoBAoCAoDAoEpNoFAoGAoHAoIpNGoJAoKApHAoLApLHAoMAoNApGApYAoOpNqGoPApHAoRAoSApHAoTApHApRApSAoUpENoVA",
    "oWAoYApIHoZAhNGUN SIGNhTONE KOIpNImTUPpNIdING CRESCENT MOON SYMBOLhGIBBOUS MOON SYMBOLcRANG CITI CAPITAL LETTER AzdMzdNG",
    "zdTzcBUzcDAzcEzdNNzeYzcGAzcHARzdIYOzdOLOzeRRzcIIzcKOzcNGAAzdUNGzcOzdDDzcPUzcSIIzdSUUzcTTEzcUCzdUzcVIYOzcWIzcYAzdOzdUzeJ",
    "mDIGIT EIGHTsFIVEtOURsNINEsONEsSEVENtIXsTHREEtWOsZEROmNUMBER EIGHTYtFIFTYuORTYtNINETYtSEVENTYuIXTYtTENuHIRTYuWENTYmOM",
    "mSMALL LETTER AzbMzbNGzbTzaBUzaDAzaEzbNNzcYzaGAzaHARzbIYOzbOLOzcRRzaIIzaKOzaNGAAzbUNGzaOzbDDzaPUzaSIIzbSUUzaTTEzaUCzbU",
    "zaVIYOzaWIzaYAzbOzbUzcJdNING SIGNcSTEBASKETcTCHdER BUFFALOgCLOSETgPOLOgWAVEfMELONcVE ARROW POINTING DIRECTLY LEFTzeRIGHT",
    "fDASHdING BLACK FLAGhHAND SIGNhWHITE FLAGdY DASHfLINEgOW LINEfOVERLINEcXING CRESCENT MOON SYMBOLhGIBBOUS MOON SYMBOL",
    "bEARY CAT FACEgFACEcDDINGdGE-TAILED RIGHTWARDS ARROWcIERSTRASS ELLIPTIC FUNCTIONdGHT LIFTERcST SYRIAC CROSSbHALEcEEL",
    "f OF DHARMAfCHAIR SYMBOLcITE ARROW SHAFT WIDTH ONEyTWO THIRDSgBULLETgCHESS BISHOPs ROTATED NINETY DEGREES",
    "zcTWO HUNDRED SEVENTY DEGREESmEQUIHOPPERw ROTATED NINETY DEGREESmKINGq ROTATED NINETY DEGREESzaTWO HUNDRED SEVENTY DEGREES",
    "nNIGHTs ROTATED FORTY-FIVE DEGREESzcNINETY DEGREESzcONE HUNDRED THIRTY-FIVE DEGREESzcTHREE HUNDRED FIFTEEN DEGREES",
    "zdWO HUNDRED SEVENTY DEGREESzoTWENTY-FIVE DEGREESs-BISHOPtQUEENtROOKmPAWNq ROTATED NINETY DEGREES",
    "zaTWO HUNDRED SEVENTY DEGREESmQUEENr ROTATED NINETY DEGREESzbTWO HUNDRED SEVENTY DEGREESmROOKq ROTATED NINETY DEGREES",
    "zaTWO HUNDRED SEVENTY DEGREESmTURNED BISHOPtKINGuNIGHTtPAWNtQUEENtROOKhIRCLEm CONTAINING BLACK SMALL CIRCLEnWITH DOT RIGHT",
    "uWN ARROWsLOWER LEFT QUADRANTyRIGHT QUADRANTsTWO DOTSsUPPER LEFT QUADRANTyRIGHT QUADRANThLUB SUIThONCAVE-SIDED DIAMOND",
    "zc WITH LEFTWARDS TICKziRIGHTWARDS TICKgDIAMONDn CONTAINING BLACK MEDIUM DIAMONDzgSMALL DIAMONDzgVERY SMALL DIAMOND",
    "oIN SQUAREoSUIToWITH CENTRED DOThOWN POINTING BACKHAND INDEXuINDEXuLEFT HAND INDEXk-POINTING SMALL TRIANGLEuTRIANGLE",
    "hRAUGHTS KINGpMANgEXCLAMATION MARK ORNAMENTgFLAGk WITH HORIZONTAL MIDDLE BLACK STRIPEiORETTEjWERhOUR POINTED CUSPtSTAR",
    "hROWNING FACEgHARD SHELL FLOPPY DISKhEARTl SUITjVY CHECK MARKmSALTIRE WITH ROUNDED CORNERSiXAGONhORIZONTAL ELLIPSEiURGLASS",
    "gLARGE SQUAREiTIN CROSShEFT LANE MERGElPOINTING BACKHAND INDEXuINDEXk-POINTING POINTERuSMALL TRIANGLEuTRIANGLE",
    "hOZENGE CONTAINING BLACK SMALL LOZENGEgMEDIUM DIAMONDnLOZENGEnSMALL SQUAREoQUAREoTARhOON SELENAgNIBgPARALLELOGRAMhENNANT",
    "jTAGONgQUESTION MARK ORNAMENTgRECTANGLEhIGHT POINTING BACKHAND INDEXvINDEXl-POINTING PENTAGONwOINTERvSMALL TRIANGLE",
    "vTRIANGLEgSCISSORShESAME DOThHOGI PIECEhMALL LOZENGEmSQUAREnTARiILING FACEhPADE SUIThQUAREm BUTTON",
    "nCONTAINING BLACK MEDIUM SQUAREzfSMALL SQUAREzfVERY SMALL SQUAREnWITH CENTRE VERTICAL LINEsLEFTWARDS TICK",
    "tOWER LEFT QUADRANTyRIGHT QUADRANTsRIGHTWARDS TICKtOUNDED CORNERSsUPPER LEFT QUADRANTyRIGHT QUADRANT",
    "sVERTICAL BISECTING LINEhTARhUNj BEHIND CLOUDw WITH RAINkWITH RAYSpSMALL CLOUDgTELEPHONEhOUCHTONE TELEPHONEhRAPEZIUM",
    "iIANGLE CONTAINING SMALL WHITE TRIANGLEhWO-WAY LEFT WAY TRAFFICgUP POINTING BACKHAND INDEXsINDEXi-POINTING CHEVRON",
    "sSMALL TRIANGLEsTRIANGLEzb WITH DOTgVERTICAL BARpELLIPSEpRECTANGLEjY SMALL SQUAREf-FEATHERED RIGHTWARDS ARROW",
    "bIDE-HEADED DOWNWARDS BARB ARROWwHEAVY BARB ARROWwLIGHT BARB ARROWwMEDIUM BARB ARROWwVERY HEAVY BARB ARROW",
    "mLEFTWARDS BARB ARROWwHEAVY BARB ARROWwLIGHT BARB ARROWwMEDIUM BARB ARROWwVERY HEAVY BARB ARROWmNORTH EAST BARB ARROW",
    "xHEAVY BARB ARROWxLIGHT BARB ARROWxMEDIUM BARB ARROWxVERY HEAVY BARB ARROWsWEST BARB ARROWxHEAVY BARB ARROW",
    "xLIGHT BARB ARROWxMEDIUM BARB ARROWxVERY HEAVY BARB ARROWmRIGHTWARDS BARB ARROWxHEAVY BARB ARROWxLIGHT BARB ARROW",
    "xMEDIUM BARB ARROWxVERY HEAVY BARB ARROWmSOUTH EAST BARB ARROWxHEAVY BARB ARROWxLIGHT BARB ARROWxMEDIUM BARB ARROW",
    "xVERY HEAVY BARB ARROWsWEST BARB ARROWxHEAVY BARB ARROWxLIGHT BARB ARROWxMEDIUM BARB ARROWxVERY HEAVY BARB ARROW",
    "mUPWARDS BARB ARROWuHEAVY BARB ARROWuLIGHT BARB ARROWuMEDIUM BARB ARROWuVERY HEAVY BARB ARROWcGGLY VERTICAL LINE",
    "cLTED FLOWERcND BLOWING FACEfCHIMEeOWdE GLASSdKING FACEcRED KEYBOARDbJbOLF FACEcMANf WITH BUNNY EARSfS BOOTShCLOTHEShHAT",
    "hSANDALdENS SYMBOLcN SIGNcODcRD JOINERfSEPARATOR MIDDLE DOTdLD MAPdMdRIED FACEbRAPPED PRESENTcEATH PRODUCTdNCHdSTLERS",
    "cITING HANDaX IN A RECTANGLE BOXb-RAYbIANGQI BLACK CANNONpHARIOToELEPHANToGENERALoHORSEoMANDARINoSOLDIERiRED CANNONnHARIOT",
    "mELEPHANTmGENERALmHORSEmMANDARINmSOLDIERbORaYAWNING FACEbELLOW HEARTcN SIGNcZIDI COMBINING HAMZA MARKrMADDA MARK",
    "hHYPHENATION MARKhLETTER BEoCHHIMqIMpIMoDADqLoELIFpTpWpYNoFAoGAFoHAYpHAoJAoKAFpHAFoLAMr WITH DOT ABOVEoMIMoNUNoOWoPEpHE",
    "oQAFoRApHAoSADpEpHINpINoTApHEoUMoVAq ALTERNATE FORMoWAWoXApHEYNoYOTr WITH CIRCUMFLEX ABOVEoZAqLpEbI RADICAL BBUTmURlCHEmIP",
    "mUOPmYnPnTlDDURmUlGAmEPmGOPnUOmOTlHMOmXITnOPnUOlJJIEnUTnYmOlKEmITlLInEmYRlMImOPlNBIEmYIPnOPmZUPlOPlPUTmYTlQOTlSHATnOPnURnY",
    "mSIlTATmUlVEPmURlWOlYITmOlZAmOTmUPnRmZIETdSYLLABLE AnPnTnXmBAoPoToXnBApPpTpXoEpPpXoIpEqPqTqXpPpTpXoOpPpTpXoUpOqPqXpPpRqXpT",
    "pXoYpPpTpXnEoPoXnIoEpPpTpXoPoToXnOoPoToXnUoOpPpXoPoRpXoToXnYoPoRpXoToXmCAoPoToXnEoPoXnHApPpTpXoEpPpTpXoOpPpTpXoUpOqPqTqXpP",
    "pRqXpXoYpPpRqXpTpXnIoEpPpTpXoPoToXnOoPoToXnUoOpPpXoPoRpXoToXnYoPoRpXoToXmDAoPoToXnDApPpTpXoEpPpXoIpEqPqXpPpTpXoOpPpTpXoUpO",
    "qPqXpPpRqXpTpXnEoPoXnIoEpPpXoPoToXnOoPoToXnUoOpXoPoRpXoToXmEnXmFAoPoToXnIoPoToXnOoPoXnUoPoRpXoToXnYoPoToXmGAoPoToXnEoPoToX",
    "nGApPpTpXoEpPpTpXoIpEqPqXpTpXoOpPpTpXoUpOqPqTqXpPpRqXpTpXnIoEpPpTpXoPoToXnOoPoToXnUoOpPpTpXoPoRpXoToXmHAoPoToXnEoPoXnIEpX",
    "oTnLApPpTpXoEpPpXoIpEqPqXpPpTpXoOpPpXoUpOqPqXpPpRqXpTpXoYpPpRqXpTpXnMApPpTpXoIpEqPqXpPpTpXoOpPpTpXoUpOqPqXpPpRqXpTpXoYpPpR",
    "qXpXnNApPpTpXoEpPpXoIpEqPqTqXpPpTpXoOPpTpXoUOqXpTnOoPoToXnUOpPpTpXnXApPpTpXoEpPpXoIpEqPqTqXpPpTpXoOpPpTpXoUOqPqTqXmInEoPoT",
    "oXnPnToERATION MARKnXmJIoEpPpTpXoPoToXnJIpEqPqTqXpPpTpXoOpPpTpXoUpOqPqXpPpRqXpTpXoYpPpTpXnOoPoToXnUoOpPpTpXoPoRpXoToXnYoP",
    "oRpXoToXmKAoPoToXnEoPoToXnIoEpPpXoPoToXnOoPoToXnUoOpPpXoPoRpXoToXmLAoPoToXnEoPoXnIoEpPpTpXoPoToXnOoPoToXnUoOpPpTpXoPoRpXoT",
    "oXnYoPoRpXoToXmMAoPoToXnEoXnGApPpTpXoEpPpXoIEqXoOpPpTpXoUpOqPqXpPpRqXpTpXnIoEpPpXoPoToXnOoPoToXnUoOpPpTpXoPoRpXoToXnYoPoT",
    "oXmNAoPoXnBApPpTpXoIpEqPqXpPpTpXoOpPpTpXoUpPpRqXpTpXoYpPpRqXpTpXnDApPpTpXoEpPpXoIpEqXpPpTpXoOpPpTpXoUpPpRqXpTpXnEoPoXnGApP",
    "pTpXoEpPpXoIEqPqXoOpPpTpXoUOqTqXnIoEpPpXoPoToXnJIpEqPqTqXpPpTpXoOpPpTpXoUpOqXpPpRqXpXoYpPpRqXpTpXnOoPoToXnRApPpTpXoEpPpTpX",
    "oOpPpXoUpPpRqXpTpXoYpPpRqXpTpXnUoOpPpXoPoRpXoToXnYIpEqPqTqXpPpTpXoOpPpTpXoUpOqPqXpPpTpXnZApPpTpXoEpXoIpEqPqXpPpTpXoOPpXoU",
    "pOqXpPpRqXpXoYpPpRqXpTpXmOnPnTnXmPAoPoToXnIoEpPpXoPoToXnOoPoToXnUoOpPpXoPoRpXoToXnYoPoRpXoToXmQIoEpPpTpXoPoToXnOoPoToXnUoO",
    "pPpTpXoPoRpXoToXnYoPoRpXoToXmRAoPoToXnEoPoXnOoPoToXnRApXoEpPpTpXoOpPpTpXoUpOqXpPpRqXpTpXoYpPpRqXpTpXnUoOpPpXoPoRpXoToXnYoP",
    "oRpXoToXmSAoPoToXnEoPoXnHApPpTpXoEpPpTpXoOpPpTpXoUpOqPqXpPpRqXpTpXoYpPpRqXpTpXnIoEpPpXoPoToXnOoPoToXnSApPpTpXoEpPpXoIpEqP",
    "qXpPpTpXoOpPpTpXoUpPpTpXoYpPpRqXpTpXnUoOpPpXoPoRpXoToXnYoPoRpXoToXmTAoPoToXnEoPoXnIoEpPpXoPoToXnOoPoToXnUoOpPpTpXoPoRpXoT",
    "oXmUOoPoXmVAoPoToXnEPoXnIoEpPpTpXoPoToXnOoPoToXnUoPoRpXoToXnYoPoRpXoToXmWAoPoToXnEoPoXnOoPoXnUoOpPpXmXIoEpPpTpXoPoToXnOoP",
    "oToXnUOpXnYoPoRpXoToXmYIoEpPpTpXoPoToXnOoPoToXnUoOpPpTpXoPoRpXoToXnYoPoRpXoToXmZAoPoToXnEoPoXnHApPpTpXoEpPpTpXoOpPpTpXoUpO",
    "qPqXpPpRqXpTpXoYpPpRqXpTpXnIoEpPpXoPoToXnOoPoToXnUoOpPpXoPoRpXoToXnYoPoRpXoToXnZApPpTpXoEpPpXoIpEqPqTqXpPpTpXoOpPpXoUpPpR",
    "qXpXoYpPpRqXpTpXcN YANGbO-YOaZ NOTATION BAG MEMBERSHIPlDOMAIN ANTIRESTRICTIONlLEFT BINDING BRACKETqIMAGE BRACKET",
    "lRANGE ANTIRESTRICTIONmELATIONAL COMPOSITIONmIGHT BINDING BRACKETrIMAGE BRACKETlSCHEMA COMPOSITIONsPIPINGtROJECTIONmPOT",
    "lTYPE COLONbANABAZAR SQUARE CLOSING DOUBLE-LINED HEAD MARKzaHEAD MARKtUSTER-FINAL LETTER LAznRAznVAznYAzaINITIAL LETTER RA",
    "rFINAL CONSONANT MARKrINITIAL DOUBLE-LINED HEAD MARKzaHEAD MARKrLETTER -AyAyBAzaHAyCAzaHAyDAzaDAzbHAzaHAzaZAzbHAyGAzaHAyHA",
    "yJAyKAzaHAzaSSAyLAyMAyNAzaGAzaNAzaYAyPAzaHAyRAySAzaHAzaSAyTAzaHAzaSAzbHAzaTAzbHAyVAyYAyZAzaHArMARK DOUBLE SHADwLONG TSHEG",
    "wSHADwTSHEGrSIGN ANUSVARAwCANDRA WITH ORNAMENTzdBINDUzi WITH ORNAMENTwVIRAMAySARGAsUBJOINERrVOWEL LENGTH MARKxSIGN AIzeU",
    "zdEzdIzdOzeEzdREVERSED IzdUzeEbEBRA FACEcRO WIDTH JOINERlNO-BREAK SPACEnN-JOINERlSPACEcUSbIPPER-MOUTH FACE",
    "bNAMENNY COMBINING ATTACHING VERTICAL OMETtLOWER TONAL RANGE INDICATORtMARK BORZAYAyCHASHKAzg POLNAYAzaURVED OMET",
    "yDEMESTVENNY ZADERZHKAzaVOETOCHIEyGORAZDO NIZKO ON LEFTzqRIGHTznS KRYZHEM ON LEFTzzbRIGHTzhVYSOKOyKACHKAzaRYZHze ON LEFT",
    "zaUPNAYAyLOMKAyMALO POVYSHE ON LEFTzpRIGHTzmS KHOKHLOM ON LEFTzzbRIGHTzpRYZHEMznTRANNOyNIZKO ON LEFTziRIGHT",
    "zfS KRYZHEM ON LEFTzsRIGHTyOBLACHKOzaNzaTSECHKAyPODCHASHIEzj WITH VERTICAL STROKEzcVERTKAzbVYSHE ON LEFTzkRIGHT",
    "zhS KHOKHLOM ON LEFTzvRIGHTzkRYZHEMziTRANNOyRAVNOzbZSEKAySKOBAzaOROCHYA NOZHKAzaREDNE ON LEFTzjRIGHTzaTRANNO MALO POVYSHE",
    "yTIKHAYAzaOCHKAzaSATA ON LEFTziRIGHTzfS KRYZHEMyUDARKAyVYSOKO ON LEFTzjRIGHTzgS KHOKHLOM ON LEFTzuRIGHTzjRYZHEMyZADERZHKA",
    "zaELOzbVOKtTONAL RANGE MARK MRACHNOzlSVETLOzlTRESVETLOjNEUME CHASHKArELYUSTKApDEMESTVENNY KLYUCHrRBITSAqOUBLE ZAPYATAYA",
    "qUDAqVA V CHELNUpFITApGOLUBCHIK BORZYzaMRACHNYzaSVETLYzaTIKHYzbRESVETLYpKHAMILOqLYUCHqOBYLAqRYUKu TIKHYsZHqUFISMApMECHIK",
    "v KLYUCHENEPOSTOYANNYzePOVODNYzeVOYwPOVODNYpNEMKApOBLAKOqSOKAu KLYUCHEVAYA NEPOSTOYANNAYAziSVETLAYAwRYUKOVAYA SVETLAYA",
    "vSVETLAYAvTRESVETLAYApPALKArRAKLITrUKqEREVODKAy NEPOSTOYANNAYAqODCHASHIErLKULIZMYpREVERSED CHELYUSTKAqOG",
    "pSKAMEYTSA DVOECHELNAYA KLYUCHEVAYAznNEPOSTOYANNAYAznPROSTAYAznSVETLAYAzaKLYUCHENEPOSTOYANNAYAzhVAYA SVETLAYAzmTIKHAYA",
    "zaMRACHNAYAzaSVETLAYAzaTIKHAYAzbRESVETLAYAqLOZHITIEy S KRYZHEMzcZAPYATOYzaZAKRYTOEqTATYAv NEPOSTOYANNAYA",
    "wS DVUMYA ZAPYATYMIyKRYZHEMzg I ZAPYATOYyROGOMyZAPYATOYzh I KRYZHEMzkPODCHASHIEMwZAKRYTAYAzg S ZAPYATOYrOPITSAx S OCHKOM",
    "yWITH SOROCHYA NOZHKArRELA DVOECHELNAYAzj KLYUCHEVAYAzgOKRYZHEVAYAzhPOVODNAYAzq KLYUCHEVAYAwGROMNAYA",
    "zf WITH SINGLE ZAPYATAYAzbOKRYZHEVAYAzm POVODNAYAzcPOVODNAYAzl WITH DOUBLE ZAPYATAYAzrSINGLE ZAPYATAYA",
    "wKLYUCHENEPOSTOYANNAYAzePOVODNAYAxRYUKOVAYAzh GROMNAYAzq WITH SINGLE ZAPYATAYAzmOKRYZHEVAYAzx POVODNAYAznPOVODNAYA",
    "zw WITH DOUBLE ZAPYATAYAzzdSINGLE ZAPYATAYAziPOVODNAYAziTRYASKAzaZHEVAYAwMRACHNOTIKHAYAwNEPOSTOYANNAYAwPOLUPOVODNAYA",
    "yVODNAYAxROSTAYAwTIKHAYA PUTNAYAxRYASOGLASNAYAzdPOVODNAYAzdSTRELNAYApVRAKHIYA KLYUCHEVAYA MRACHNAYAzlPROSTAYAzlSVETLAYA",
    "zlTRESVETLAYAyMRACHNAYAyPROSTAYAySVETLAYAyTRESVETLAYApZANOZHEKrPYATAYAqMEYTSAjPRIZNAK MODIFIER DIRECTION FLIPzbKRYZH",
    "zbLEVEL-2zh3zbROGbOMBIEbWJcNBSPdJcSP"]

end ClassChain.Text.CharacterName
